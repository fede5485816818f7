import ShuffleWatch.Json.Value
import ShuffleWatch.Text.Hex

/-!
# Reading JSON

A strict reader of JSON texts: blanks are the space, the tab and the two line
ends, nothing may follow the value, no comma may be left over, and control
characters in strings have to be escaped. A string whose escapes leave half of
a surrogate pair alone is read, as a broken one.
-/

namespace ShuffleWatch.Json

open Text

/-- A character that may stand between the parts of a JSON text. -/
def isGap (c : Char) : Bool := c == ' ' || c == '\t' || c == '\r' || c == '\n'

/-- The text without the gap at its front. -/
def skipGap (cs : List Char) : List Char := cs.dropWhile isGap

/-! ## Strings -/

/-- The character that a backslash and this letter stand for. -/
def escaped? : Char → Option Char
  | '"' => some '"'
  | '\\' => some '\\'
  | '/' => some '/'
  | 'b' => some '\x08'
  | 'f' => some '\x0c'
  | 'n' => some '\n'
  | 'r' => some '\r'
  | 't' => some '\t'
  | _ => none

/-- The rest of a string, after its opening quote: its code points, among them
    the surrogates that escapes wrote, and the text after the closing quote. -/
def codePoints? : List Char → Option (List Nat × List Char)
  | [] => none
  | '"' :: rest => some ([], rest)
  | '\\' :: 'u' :: a :: b :: c :: d :: rest => do
    let n ← Hex.number? [a, b, c, d]
    let (ns, after) ← codePoints? rest
    return (n :: ns, after)
  | '\\' :: e :: rest => do
    let c ← escaped? e
    let (ns, after) ← codePoints? rest
    return (c.toNat :: ns, after)
  | c :: rest => do
    if c.toNat < 0x20 ∨ c = '\\' then none
    let (ns, after) ← codePoints? rest
    return (c.toNat :: ns, after)

/-- The number is the first half of a surrogate pair. -/
def isHighSurrogate (n : Nat) : Bool := 0xD800 ≤ n && n < 0xDC00

/-- The number is the second half of a surrogate pair. -/
def isLowSurrogate (n : Nat) : Bool := 0xDC00 ≤ n && n < 0xE000

/-- The characters of the code points, where each first half of a surrogate
    pair has to be followed by a second one. -/
def joinSurrogates? : List Nat → Option (List Char)
  | [] => some []
  | [n] => if isHighSurrogate n || isLowSurrogate n then none else some [Char.ofNat n]
  | n :: m :: rest =>
    if isHighSurrogate n then
      if isLowSurrogate m then
        (joinSurrogates? rest).map (Char.ofNat (0x10000 + (n - 0xD800) * 0x400 + (m - 0xDC00)) :: ·)
      else none
    else if isLowSurrogate n then none
    else (joinSurrogates? (m :: rest)).map (Char.ofNat n :: ·)

/-- The rest of a string, after its opening quote, and the text after it. -/
def stringBody? (cs : List Char) : Option (Option String × List Char) :=
  (codePoints? cs).map fun p => ((joinSurrogates? p.1).map String.ofList, p.2)

/-! ## Numbers -/

/-- The digits at the front, of which there has to be one, and the text after
    them. -/
def digits? (cs : List Char) : Option (List Char × List Char) :=
  match cs.takeWhile Char.isDigit with
  | [] => none
  | ds => some (ds, cs.dropWhile Char.isDigit)

/-- The integer part of a number: a zero, or digits that begin with no zero. -/
def integerPart? : List Char → Option (List Char × List Char)
  | '0' :: rest => some (['0'], rest)
  | cs => digits? cs

/-- The text after a fraction, if there is one; `none` if it is cut off. -/
def skipFraction? : List Char → Option (List Char)
  | '.' :: rest => (digits? rest).map (·.2)
  | cs => some cs

/-- The text after the sign that may begin an exponent. -/
def skipSign : List Char → List Char
  | '+' :: rest => rest
  | '-' :: rest => rest
  | cs => cs

/-- The text after an exponent, if there is one; `none` if it is cut off. -/
def skipExponent? : List Char → Option (List Char)
  | 'e' :: rest => (digits? (skipSign rest)).map (·.2)
  | 'E' :: rest => (digits? (skipSign rest)).map (·.2)
  | cs => some cs

/-- What follows the integer part begins a fraction or an exponent. -/
def continuesNumber : List Char → Bool
  | c :: _ => c == '.' || c == 'e' || c == 'E'
  | [] => false

/-- A number without a sign, and the text after it. -/
def unsigned? (cs : List Char) : Option (Json × List Char) := do
  let (ds, rest) ← integerPart? cs
  if continuesNumber rest then
    let after ← (skipFraction? rest).bind skipExponent?
    return (otherNumber, after)
  else
    return (natural (Nat.ofDigitChars 10 ds 0), rest)

/-- A number, and the text after it. -/
def number? : List Char → Option (Json × List Char)
  | '-' :: rest => (unsigned? rest).map fun p => (otherNumber, p.2)
  | cs => unsigned? cs

/-! ## Values -/

mutual

/-- The value at the front of a text, and the text after it. A call spends a
    unit of fuel and reads a character before the next one, so the length of
    the text and one more is fuel enough. -/
def value? : Nat → List Char → Option (Json × List Char)
  | 0, _ => none
  | fuel + 1, cs =>
    match skipGap cs with
    | 'n' :: 'u' :: 'l' :: 'l' :: rest => some (null, rest)
    | 't' :: 'r' :: 'u' :: 'e' :: rest => some (bool true, rest)
    | 'f' :: 'a' :: 'l' :: 's' :: 'e' :: rest => some (bool false, rest)
    | '"' :: rest => (stringBody? rest).map fun p => (string p.1, p.2)
    | '[' :: rest =>
      match skipGap rest with
      | ']' :: after => some (array [], after)
      | _ => do
        let (j, next) ← value? fuel rest
        let (js, after) ← items? fuel next
        return (array (j :: js), after)
    | '\x7b' :: rest =>
      match skipGap rest with
      | '\x7d' :: after => some (object [], after)
      | _ => do
        let (m, next) ← member? fuel rest
        let (ms, after) ← members? fuel next
        return (object (m :: ms), after)
    | cs => number? cs

/-- The further items of an array, and the text after its closing bracket. -/
def items? : Nat → List Char → Option (List Json × List Char)
  | 0, _ => none
  | fuel + 1, cs =>
    match skipGap cs with
    | ']' :: after => some ([], after)
    | ',' :: rest => do
      let (j, next) ← value? fuel rest
      let (js, after) ← items? fuel next
      return (j :: js, after)
    | _ => none

/-- A key and its value, and the text after them. -/
def member? : Nat → List Char → Option ((Option String × Json) × List Char)
  | 0, _ => none
  | fuel + 1, cs =>
    match skipGap cs with
    | '"' :: rest => do
      let (key, next) ← stringBody? rest
      match skipGap next with
      | ':' :: next =>
        let (j, after) ← value? fuel next
        return ((key, j), after)
      | _ => none
    | _ => none

/-- The further members of an object, and the text after its closing brace. -/
def members? : Nat → List Char → Option (List (Option String × Json) × List Char)
  | 0, _ => none
  | fuel + 1, cs =>
    match skipGap cs with
    | '\x7d' :: after => some ([], after)
    | ',' :: rest => do
      let (m, next) ← member? fuel rest
      let (ms, after) ← members? fuel next
      return (m :: ms, after)
    | _ => none

end

/-- The value that a whole text writes. -/
def read? (cs : List Char) : Option Json := do
  let (j, after) ← value? (cs.length + 1) cs
  if skipGap after = [] then return j else none

/-- The value that a whole text writes. -/
def parse? (s : String) : Option Json := read? s.toList

/-! ## Gaps before a value -/

theorem skipGap_skipGap (cs : List Char) : skipGap (skipGap cs) = skipGap cs := by
  induction cs with
  | nil => rfl
  | cons c cs ih =>
    by_cases hc : isGap c = true
    · have hskip : skipGap (c :: cs) = skipGap cs := List.dropWhile_cons_of_pos hc
      rw [hskip, ih]
    · have hskip : skipGap (c :: cs) = c :: cs := List.dropWhile_cons_of_neg hc
      rw [hskip, hskip]

theorem value?_skipGap (n : Nat) (cs : List Char) : value? n (skipGap cs) = value? n cs := by
  cases n <;> simp only [value?, skipGap_skipGap]

theorem items?_skipGap (n : Nat) (cs : List Char) : items? n (skipGap cs) = items? n cs := by
  cases n <;> simp only [items?, skipGap_skipGap]

theorem member?_skipGap (n : Nat) (cs : List Char) : member? n (skipGap cs) = member? n cs := by
  cases n <;> simp only [member?, skipGap_skipGap]

theorem members?_skipGap (n : Nat) (cs : List Char) : members? n (skipGap cs) = members? n cs := by
  cases n <;> simp only [members?, skipGap_skipGap]

end ShuffleWatch.Json
