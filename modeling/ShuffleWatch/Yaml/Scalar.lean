import ShuffleWatch.Text.Hex

/-!
# Scalars in YAML

The texts that a YAML document holds: plain ones, which end where the document
would go on, and quoted ones, in which single quotes are doubled or characters
are escaped. A text may go over several lines. The blanks around a line break
are not part of it, one break reads as a space, and each further one as a line
break; a line or paragraph separator always reads as itself (`Gap`).
-/

namespace ShuffleWatch.Yaml

open Text

/-- A value in a document, as far as it is told here: a text, or a collection
    of further values. -/
inductive Value
  /-- A text without quotes. It may stand for a number, a truth value or
      nothing. -/
  | plain (text : String)
  /-- A text in quotes or in a block. -/
  | quoted (text : String)
  | collection
  deriving DecidableEq

/-- A space or a tab. -/
def isBlank (c : Char) : Bool := c == ' ' || c == '\t'

/-- A character that ends a line. Only a line feed is like any other one; the two
    separators keep their identity. -/
def isBreak (c : Char) : Bool := c == '\n' || c == '\u2028' || c == '\u2029'

/-- A blank, a line break or the end comes next. -/
def isAtGap (cs : List Char) : Bool := cs.head?.all fun c => isBlank c || isBreak c

/-- The text after the line, which may have no more than blanks and a comment. -/
def endLine? (cs : List Char) : Option (List Char) :=
  match cs.dropWhile isBlank with
  | [] => some []
  | c :: rest =>
    if isBreak c then some rest
    else if c = '#' then some ((rest.dropWhile (!isBreak ·)).drop 1)
    else none

/-- What stands between two words of a text. -/
inductive Gap
  /-- Blanks within a line, the last one first. -/
  | blanks (cs : List Char)
  /-- A line break, unless it was escaped, and the further ones, the last one
      first. -/
  | broken (first : Option Char) (further : List Char)

namespace Gap

/-- Nothing between two characters. -/
def none : Gap := blanks []

/-- The gap with one more blank. -/
def blank (c : Char) : Gap → Gap
  | blanks cs => blanks (c :: cs)
  | broken first further => broken first further

/-- The gap with one more line break. -/
def lineBreak (c : Char) : Gap → Gap
  | blanks _ => broken (some c) []
  | broken first further => broken first (c :: further)

/-- What the gap reads as. -/
def text : Gap → List Char
  | blanks cs => cs.reverse
  | broken (some '\n') [] => [' ']
  | broken (some '\n') further => further.reverse
  | broken first further => first.toList ++ further.reverse

/-- There is nothing. -/
def isNone : Gap → Bool
  | blanks cs => cs.isEmpty
  | broken _ _ => false

/-- The line has ended. -/
def isBroken : Gap → Bool
  | blanks _ => false
  | broken _ _ => true

end Gap

/-- A document may not go on here: three dashes or dots stand at the beginning
    of a line. -/
def isAtMarker : List Char → Bool
  | '-' :: '-' :: '-' :: cs => isAtGap cs
  | '.' :: '.' :: '.' :: cs => isAtGap cs
  | _ => false

/-! ## Quoted texts -/

/-- The rest of a text in single quotes, after the opening one, and what follows
    the closing one. -/
def singleQuoted? (gap : Gap) : List Char → Option (List Char × List Char)
  | [] => none
  | '\'' :: '\'' :: cs => do
    let (text, rest) ← singleQuoted? .none cs
    return (gap.text ++ '\'' :: text, rest)
  | '\'' :: cs => some (gap.text, cs)
  | c :: cs =>
    if isBreak c then if isAtMarker cs then none else singleQuoted? (gap.lineBreak c) cs
    else if isBlank c then singleQuoted? (gap.blank c) cs
    else do
      let (text, rest) ← singleQuoted? .none cs
      return (gap.text ++ c :: text, rest)

/-- The character that a backslash and this character stand for. -/
def escaped? : Char → Option Char
  | '0' => some '\x00'
  | 'a' => some '\x07'
  | 'b' => some '\x08'
  | 't' => some '\t'
  | '\t' => some '\t'
  | 'n' => some '\n'
  | 'v' => some '\x0b'
  | 'f' => some '\x0c'
  | 'r' => some '\r'
  | 'e' => some '\x1b'
  | ' ' => some ' '
  | '"' => some '"'
  | '/' => some '/'
  | '\\' => some '\\'
  | 'N' => some '\u0085'
  | '_' => some '\u00a0'
  | 'L' => some '\u2028'
  | 'P' => some '\u2029'
  | _ => none

/-- The number of digits after a backslash and this character. -/
def escapeLength? : Char → Option Nat
  | 'x' => some 2
  | 'u' => some 4
  | 'U' => some 8
  | _ => none

/-- The character of this code point. -/
def character? (n : Nat) : Option Char :=
  if n.isValidChar then some (Char.ofNat n) else none

/-- The rest of a text in double quotes, after the opening one, and what follows
    the closing one. The count says how many characters belong to an escape
    that has been read. -/
def doubleQuoted? (gap : Gap) : Nat → List Char → Option (List Char × List Char)
  | _, [] => none
  | n + 1, _ :: cs => doubleQuoted? gap n cs
  | 0, '"' :: cs => some (gap.text, cs)
  | 0, '\\' :: e :: cs => do
    if isBreak e then
      if isAtMarker cs then none
      let (text, rest) ← doubleQuoted? (.broken none []) 0 cs
      return (gap.text ++ text, rest)
    let c ← match escapeLength? e with
      | some n => if n ≤ cs.length then (Hex.number? (cs.take n)).bind character? else none
      | none => escaped? e
    let (text, rest) ← doubleQuoted? .none ((escapeLength? e).getD 0) cs
    return (gap.text ++ c :: text, rest)
  | 0, c :: cs =>
    if isBreak c then if isAtMarker cs then none else doubleQuoted? (gap.lineBreak c) 0 cs
    else if isBlank c then doubleQuoted? (gap.blank c) 0 cs
    else do
      let (text, rest) ← doubleQuoted? .none 0 cs
      return (gap.text ++ c :: text, rest)

/-- The quoted text at the front, and what follows it. -/
def quoted? : List Char → Option (Value × List Char)
  | '\'' :: cs => (singleQuoted? .none cs).map fun p => (.quoted (String.ofList p.1), p.2)
  | '"' :: cs => (doubleQuoted? .none 0 cs).map fun p => (.quoted (String.ofList p.1), p.2)
  | _ => none

/-! ## Plain texts -/

/-- A character that separates values inside brackets. -/
def isFlowMark (c : Char) : Bool := ",[]\x7b\x7d".toList.contains c

/-- A character that no plain text begins with, except as `beginsPlain` says. -/
def isIndicator (c : Char) : Bool := "-?:,[]\x7b\x7d#&*!|>'\"%@\x60".toList.contains c

/-- A plain text may begin here, inside brackets or not. A dash begins one if no
    blank follows it, and so do, outside brackets, a question mark and a
    colon. -/
def beginsPlain (isInside : Bool) : List Char → Bool
  | [] => false
  | '-' :: cs => !isAtGap cs
  | '?' :: cs => !isInside && !isAtGap cs
  | ':' :: cs => !isInside && !isAtGap cs
  | c :: _ => !(isBlank c || isBreak c || isIndicator c)

/-- The rest of a plain text after a gap, and what follows it, where `start` is
    the beginning of the line that the column counts from. A colon before a gap
    ends the text, and so does a number sign after one. Outside brackets, a
    further line has to be indented by `floor`, and no tab may be part of that
    indentation. If the text does not go on after a line break, what follows it
    begins with a line feed. -/
def plainRest? (isInside : Bool) (floor : Nat) (gap : Gap) (start : List Char) (column : Nat) :
    List Char → Option (List Char × List Char)
  | [] => some ([], [])
  | c :: cs =>
    if isBreak c then plainRest? isInside floor (gap.lineBreak c) cs 0 cs
    else if isBlank c then
      if gap.isBroken ∧ c = '\t' ∧ column < floor then none
      else plainRest? isInside floor (gap.blank c) start (column + 1) cs
    else if gap.isBroken ∧ (¬ isInside ∧ column < floor ∨ isAtMarker start) then
      some ([], '\n' :: start)
    else if c = '#' ∧ ¬ gap.isNone then some ([], c :: cs)
    else if c = ':' ∧ isAtGap cs then some ([], c :: cs)
    else if isInside ∧ c = ':' ∧ cs.head?.any (fun d => isFlowMark d || d == '?') then none
    else if isInside ∧ isFlowMark c then some ([], c :: cs)
    else do
      let (text, rest) ← plainRest? isInside floor .none start (column + 1) cs
      return (gap.text ++ c :: text, rest)

/-- The plain text at the front, and what follows it. -/
def plain? (isInside : Bool) (floor : Nat) (cs : List Char) : Option (Value × List Char) :=
  if beginsPlain isInside cs then
    (plainRest? isInside floor .none cs 0 cs).map fun p => (.plain (String.ofList p.1), p.2)
  else none

end ShuffleWatch.Yaml
