/-!
# Punycode

Characters beyond ASCII written with the letters and digits of ASCII. First
come the characters of ASCII, with a dash at their end if there are any; then
numbers, each of which says which character to insert next, and where. The
characters are inserted in the order of their code points. A number ends at a
digit below a threshold, which is adapted after each number.
-/

namespace ShuffleWatch.Domain.Punycode

/-- The value of a digit: the letters in either case, and then the decimal
    digits. -/
def digit? (c : Char) : Option Nat :=
  if 'a' ≤ c ∧ c ≤ 'z' then some (c.toNat - 'a'.toNat)
  else if 'A' ≤ c ∧ c ≤ 'Z' then some (c.toNat - 'A'.toNat)
  else if '0' ≤ c ∧ c ≤ '9' then some (c.toNat - '0'.toNat + 26)
  else none

/-- A digit below this ends a number, if it stands at this place, counted in
    thirty-sixes. -/
def threshold (place bias : Nat) : Nat :=
  if place ≤ bias then 1 else if bias + 26 ≤ place then 26 else place - bias

/-- Divides a number until it is small, and counts the times. -/
def scale (n : Nat) : Nat × Nat :=
  if 455 < n then let (m, times) := scale (n / 35); (m, times + 1) else (n, 0)
termination_by n
decreasing_by exact Nat.div_lt_self (by omega) (by omega)

/-- The bias after a number that was the first one or not, when there are so
    many characters. -/
def adapt (number characters : Nat) (isFirst : Bool) : Nat :=
  let n := if isFirst then number / 700 else number / 2
  let (m, times) := scale (n + n / characters)
  36 * times + 36 * m / (m + 38)

/-- What has been read: the characters so far, and where the next number counts
    from. -/
structure Reading where
  text : List Char
  /-- The last code point that was inserted. -/
  code : Nat
  /-- The place after it. -/
  index : Nat
  bias : Nat

namespace Reading

/-- The beginning, with the characters of ASCII. -/
def start (text : List Char) : Reading := ⟨text, 128, 0, 72⟩

/-- Inserts the character that a number says. The places of the text, from the
    last one on and around, are counted once for each code point. -/
def insert? (r : Reading) (number : Nat) : Option Reading :=
  let size := r.text.length + 1
  let code := r.code + (r.index + number) / size
  let index := (r.index + number) % size
  if code.isValidChar then
    some ⟨r.text.insertIdx index (Char.ofNat code), code, index + 1,
      adapt number size (r.index == 0)⟩
  else none

/-- Reads the numbers to the end. The digits of the current one have added up to
    `number`, and the next one counts `weight` times. Weights and places are of
    32 bits. -/
def finish? (r : Reading) (number weight place : Nat) : List Char → Option (List Char)
  | [] => if place = 36 then some r.text else none
  | c :: cs => do
    let d ← digit? c
    let number := number + d * weight
    if 2 ^ 32 ≤ r.index + number then none
    let t := threshold place r.bias
    if d < t then (← r.insert? number).finish? 0 1 36 cs
    else
      let weight := weight * (36 - t)
      if 2 ^ 32 ≤ weight then none else r.finish? number weight (place + 36) cs

end Reading

/-- The characters that a text stands for. A dash at its front separates
    nothing. -/
def decode? (cs : List Char) : Option (List Char) :=
  let (text, numbers) :=
    match cs.reverse.dropWhile (· != '-') with
    | _ :: c :: rest =>
      ((c :: rest).reverse, (cs.reverse.takeWhile (· != '-')).reverse)
    | _ => ([], cs)
  if text.all (·.toNat < 0x80) then (Reading.start text).finish? 0 1 36 numbers else none

end ShuffleWatch.Domain.Punycode
