import ShuffleWatch.Yaml.Scalar

/-!
# Block texts in YAML

Texts that stand on lines of their own, indented below the line with a mark. In
a literal one all line breaks are kept, in a folded one a single break between
two lines that begin with no blank reads as a space. The breaks at the end are
dropped, clipped to one or kept, as the mark says.
-/

namespace ShuffleWatch.Yaml

/-- What becomes of the line breaks at the end of a text. -/
inductive Chomping
  | strip
  | clip
  | keep
  deriving DecidableEq

/-- The chomping that a character asks for. -/
def Chomping.ofChar? : Char → Option Chomping
  | '-' => some strip
  | '+' => some keep
  | _ => none

/-- How a block text is written. -/
structure BlockHeader where
  chomping : Chomping
  /-- By how much the lines are indented, if it is said. -/
  indent : Option Nat

/-- A number of columns, which is not zero. -/
def columns? (c : Char) : Option Nat :=
  if '1' ≤ c ∧ c ≤ '9' then some (c.toNat - '0'.toNat) else none

/-- The header after the mark of a block text, and the text after it: the chomping
    and the indentation, in any order. -/
def blockHeader (cs : List Char) : BlockHeader × List Char :=
  match cs.head?.bind Chomping.ofChar?, cs.head?.bind columns? with
  | some chomping, _ =>
    match cs.tail.head?.bind columns? with
    | some n => (⟨chomping, some n⟩, cs.tail.tail)
    | none => (⟨chomping, none⟩, cs.tail)
  | none, some n =>
    match cs.tail.head?.bind Chomping.ofChar? with
    | some chomping => (⟨chomping, some n⟩, cs.tail.tail)
    | none => (⟨.clip, some n⟩, cs.tail)
  | none, none => (⟨.clip, none⟩, cs)

/-- The indentation of the first line that is not empty, or of an empty one before
    it that is indented further. No tab may be part of it. -/
def firstIndent? (column best : Nat) : List Char → Option Nat
  | [] => some (max column best)
  | c :: cs =>
    if c = ' ' then firstIndent? (column + 1) best cs
    else if c = '\t' then none
    else if isBreak c then firstIndent? 0 (max column best) cs
    else some (max column best)

/-- A place in a block text, after the indentation of a line. -/
structure BlockPlace where
  /-- The breaks of the empty lines before it. -/
  breaks : List Char
  /-- The beginning of the line. -/
  start : List Char
  column : Nat
  rest : List Char

/-- The place on the next line that is not empty. -/
def blockPlace? (indent : Nat) (start : List Char) (column : Nat) : List Char → Option BlockPlace
  | [] => some ⟨[], start, column, []⟩
  | c :: cs =>
    if c = ' ' ∧ column < indent then blockPlace? indent start (column + 1) cs
    else if c = '\t' ∧ column < indent then none
    else if isBreak c then
      (blockPlace? indent cs 0 cs).map fun p => { p with breaks := c :: p.breaks }
    else some ⟨[], start, column, c :: cs⟩

/-- The text from a place on, after a line that ended in a break and began with a
    blank or not, and what follows it. Each line takes up a unit of fuel. -/
def blockLines? (isFolded : Bool) (h : BlockHeader) (indent : Nat) :
    Nat → Option Char → Bool → BlockPlace → Option (List Char × List Char)
  | 0, _, _, _ => none
  | fuel + 1, ended, wasBlank, p =>
    if p.column = indent ∧ p.rest ≠ [] then do
      let isBlankLine := p.rest.head?.any isBlank
      let between :=
        if isFolded ∧ ended = some '\n' ∧ ¬ wasBlank ∧ ¬ isBlankLine then
          if p.breaks = [] then [' '] else p.breaks
        else ended.toList ++ p.breaks
      let after := p.rest.dropWhile (!isBreak ·)
      let next ← blockPlace? indent after.tail 0 after.tail
      let (text, rest) ← blockLines? isFolded h indent fuel after.head? isBlankLine next
      return (between ++ p.rest.takeWhile (!isBreak ·) ++ text, rest)
    else
      let kept :=
        match h.chomping with
        | .strip => []
        | .clip => ended.toList
        | .keep => ended.toList ++ p.breaks
      some (kept, if p.rest = [] then [] else '\n' :: p.start)

/-- The block text after its mark, where its lines are to be indented by `floor`,
    and what follows it, which begins with a line feed. -/
def block? (isFolded : Bool) (floor : Nat) (cs : List Char) : Option (Value × List Char) := do
  let (h, cs) := blockHeader cs
  let lines ← endLine? cs
  let indent ← match h.indent with
    | some n => some (floor - 1 + n)
    | none => (firstIndent? 0 0 lines).map (max floor)
  let first ← blockPlace? indent lines 0 lines
  let (text, rest) ← blockLines? isFolded h indent (lines.length + 1) none false first
  return (.quoted (String.ofList text), rest)

end ShuffleWatch.Yaml
