import ShuffleWatch.Json.Value

/-!
# Fields of JSON values

How structured data is found in a JSON value. A structure with named fields is
an object, whose unknown keys are ignored and whose known ones must not be
repeated, or an array of the fields in order. One of several alternatives is an
object whose only key names the alternative, and an alternative without content
may be its bare name.
-/

namespace ShuffleWatch.Json

/-- The value is null. -/
def isNull : Json → Bool
  | null => true
  | _ => false

/-- The text of a string. -/
def text? : Json → Option String
  | string s => s
  | _ => none

/-- A natural number of 64 bits. -/
def word? : Json → Option UInt64
  | natural n => if n < UInt64.size then some (UInt64.ofNat n) else none
  | _ => none

/-- A truth value. -/
def bool? : Json → Option Bool
  | bool b => some b
  | _ => none

/-- The items of an array. -/
def items : Json → Option (List Json)
  | array js => some js
  | _ => none

/-- The values under a key. -/
def valuesOf (key : String) (members : List (Option String × Json)) : List Json :=
  (members.filter (·.1 == some key)).map (·.2)

/-- The value under a key that must not be repeated; the inner `none` says that
    the key is missing. -/
def unrepeated? (members : List (Option String × Json)) (key : String) : Option (Option Json) :=
  match valuesOf key members with
  | [] => some none
  | [j] => some (some j)
  | _ => none

/-- The values of the named fields, in their order; an inner `none` says that
    the field is missing. Only fields after the first `least` may be missing
    from an array, and only at its end. -/
def fields? (names : List String) (least : Nat) : Json → Option (List (Option Json))
  | object members =>
    if members.all (·.1.isSome) then names.mapM (unrepeated? members) else none
  | array js =>
    if least ≤ js.length ∧ js.length ≤ names.length then
      some (js.map some ++ List.replicate (names.length - js.length) none)
    else none
  | _ => none

/-- The value of a field that has to be there. -/
def required {α : Type} (f : Json → Option α) : Option Json → Option α
  | none => none
  | some j => f j

/-- The value of a field that may be missing or null. -/
def optional {α : Type} (f : Json → Option α) : Option Json → Option (Option α)
  | none => some none
  | some null => some none
  | some j => (f j).map some

/-- The name of an alternative, and its content. -/
def alternative? : Json → Option (String × Json)
  | object [(some name, j)] => some (name, j)
  | _ => none

/-- The name of an alternative without content. -/
def bareName? : Json → Option String
  | string s => s
  | object [(some name, null)] => some name
  | _ => none

/-- The first value under a key of an object. -/
def get? (j : Json) (key : String) : Option Json :=
  match j with
  | object members => (valuesOf key members).head?
  | _ => none

end ShuffleWatch.Json
