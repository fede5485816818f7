import ShuffleWatch.Domain.Label

/-!
# Domain names

The names of hosts, which may hold characters of every script. Two names that
differ only in the case or form of their characters are the same one
(`Domain.normalize?`). Nothing is looked up.
-/

namespace ShuffleWatch.Domain

/-- The name that a text writes, or `none` if it is none: its characters are put
    in plain form, its labels are decoded, and each of them has to be
    well-formed. -/
def normalize? (cs : List Char) : Option (List Char) := do
  let labels ← ((← plain? cs).splitOnP (· == '.')).mapM decodeLabel?
  let isMixed := labels.any (·.any isFromRight)
  if labels.all isWellFormed && (!isMixed || labels.all hasOneDirection) then
    return ['.'].intercalate labels
  else none

end ShuffleWatch.Domain
