import ShuffleWatch.Json.Value
import ShuffleWatch.Text.Decimal
import ShuffleWatch.Text.Hex

/-!
# Writing JSON

The compact text of a JSON value, on a single line: no gaps, and in strings
only quotes, backslashes and control characters are escaped.
-/

namespace ShuffleWatch.Json

open Text

/-- The letter that, after a backslash, stands for the character, if there is
    one. -/
def escapeLetter? : Char → Option Char
  | '"' => some '"'
  | '\\' => some '\\'
  | '\x08' => some 'b'
  | '\x0c' => some 'f'
  | '\n' => some 'n'
  | '\r' => some 'r'
  | '\t' => some 't'
  | _ => none

/-- A character within a string. -/
def escape (c : Char) : List Char :=
  match escapeLetter? c with
  | some e => ['\\', e]
  | none =>
    if c.toNat < 0x20 then
      ['\\', 'u', '0', '0', Hex.digit (c.toNat / 16), Hex.digit (c.toNat % 16)]
    else [c]

/-- A string in quotes. A broken one is written as half of a surrogate pair. -/
def quote : Option String → List Char
  | some s => '"' :: s.toList.flatMap escape ++ ['"']
  | none => ['"', '\\', 'u', 'd', '8', '0', '0', '"']

mutual

/-- The text of a value. -/
def write : Json → List Char
  | null => ['n', 'u', 'l', 'l']
  | bool true => ['t', 'r', 'u', 'e']
  | bool false => ['f', 'a', 'l', 's', 'e']
  | natural n => Decimal.digits n
  | otherNumber => ['-', '1']
  | string s => quote s
  | array [] => ['[', ']']
  | array (j :: js) => '[' :: write j ++ writeItems js
  | object [] => ['\x7b', '\x7d']
  | object ((k, j) :: ms) => '\x7b' :: quote k ++ ':' :: write j ++ writeMembers ms

/-- The text of the further items of an array. -/
def writeItems : List Json → List Char
  | [] => [']']
  | j :: js => ',' :: write j ++ writeItems js

/-- The text of the further members of an object. -/
def writeMembers : List (Option String × Json) → List Char
  | [] => ['\x7d']
  | (k, j) :: ms => ',' :: quote k ++ ':' :: write j ++ writeMembers ms

end

/-- The text of a value. -/
def render (j : Json) : String := String.ofList j.write

end ShuffleWatch.Json
