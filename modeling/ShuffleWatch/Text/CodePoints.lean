import ShuffleWatch.Text.Hex

/-!
# Tables of characters

Sets of characters, given by runs of their code points, and how a table of such
runs is written: in base sixteen, one run after the other, with blanks between
them.
-/

namespace ShuffleWatch.Text

/-- A run of characters: every `step`-th one from the first to the last. -/
structure CodePoints where
  first : Nat
  last : Nat
  step : Nat

namespace CodePoints

/-- The character is in the run. -/
def contains (r : CodePoints) (c : Char) : Bool :=
  r.first ≤ c.toNat && c.toNat ≤ r.last && (c.toNat - r.first) % r.step == 0

/-- The run that is written as its first character, a dash and its last one, or
    as its only one. If not all of them count, a slash and the step follow. -/
def read? (cs : List Char) : Option CodePoints :=
  match cs.splitOnP fun c => c == '-' || c == '/' with
  | [a] => (Hex.number? a).map fun n => ⟨n, n, 1⟩
  | [a, b] => do return ⟨← Hex.number? a, ← Hex.number? b, 1⟩
  | [a, b, s] => do return ⟨← Hex.number? a, ← Hex.number? b, ← Hex.number? s⟩
  | _ => none

/-- The words of a table. -/
def words (text : String) : List (List Char) :=
  (text.toList.splitOnP fun c => c == ' ' || c == '\n').filter (· ≠ [])

/-- The runs that a table writes. -/
def ofTable (text : String) : List CodePoints := (words text).filterMap read?

/-- The characters of these code points. -/
def characters? (cs : List Char) : Option (List Char) :=
  (cs.splitOnP (· == '.')).mapM fun n => (Hex.number? n).map Char.ofNat

end CodePoints

/-- The character is in one of the runs. -/
def isAmong (table : List CodePoints) (c : Char) : Bool := table.any (·.contains c)

end ShuffleWatch.Text
