/-!
# JSON values

The values of JSON, as far as anything here depends on them: of the numbers
only the naturals are told apart, and a string may be *broken*.
-/

namespace ShuffleWatch

/-- A JSON value. -/
inductive Json
  | null
  | bool (b : Bool)
  /-- A number written with digits alone. -/
  | natural (n : Nat)
  /-- A number with a sign, a fraction or an exponent. -/
  | otherNumber
  /-- A string. It is broken, and stands for no text, if its escapes leave half
      of a surrogate pair alone. -/
  | string (text : Option String)
  | array (items : List Json)
  /-- An object: its keys, any of which may be broken, and their values, in the
      order in which they are written. -/
  | object (members : List (Option String × Json))

namespace Json

/-- The string of a text. -/
def text (s : String) : Json := string (some s)

/-- The object with these members. -/
def record (members : List (String × Json)) : Json :=
  object (members.map fun m => (some m.1, m.2))

/-- The value, or null. -/
def orNull {α : Type} (f : α → Json) : Option α → Json
  | none => null
  | some a => f a

end Json

end ShuffleWatch
