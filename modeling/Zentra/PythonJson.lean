import Mathlib.Algebra.Order.Ring.Rat

/-!
# JSON values as the language loads them

A number without a fraction and an exponent is an `int`, every other one a `float`; a
`bool` is an `int` as well.  Reading a value the wrong way raises.

* `Json.truthy` — what counts as true;
* `Json.key` — the key that a value makes in a dictionary, where equal numbers make the
  same one and lists and objects make none;
* `Json.items` — what a loop over a value gives.
-/

namespace PythonJson

inductive Json
  | null
  | bool (value : Bool)
  | int (value : ℤ)
  | float (value : ℚ)
  | string (value : String)
  | list (items : List Json)
  | object (members : List (String × Json))

/-- An object: its members, in the order in which they are written. -/
abbrev Object : Type := List (String × Json)

/-- A value as a key of a dictionary. -/
inductive Key
  | null
  | number (value : ℚ)
  | string (value : String)
  deriving DecidableEq, Repr

/-- The value under a key, if there is one. -/
def Object.get (members : Object) (key : String) : Option Json := members.lookup key

@[simp] theorem Object.get_nil (key : String) : Object.get [] key = none := rfl

namespace Json

/-- The value counts as true in a condition. -/
def truthy : Json → Bool
  | null => false
  | bool value => value
  | int value => decide (value ≠ 0)
  | float value => decide (value ≠ 0)
  | string value => decide (value ≠ "")
  | list items => !items.isEmpty
  | object members => !members.isEmpty

/-- `isinstance(value, int)`, with the number. -/
def isInt : Json → Option ℤ
  | bool value => some (if value then 1 else 0)
  | int value => some value
  | _ => none

/-- The number that a count can be compared with; `none` is a `TypeError`. -/
def number : Json → Option ℚ
  | bool value => some (if value then 1 else 0)
  | int value => some value
  | float value => some value
  | _ => none

/-- The key that the value makes; `none` is a `TypeError`. -/
def key : Json → Option Key
  | null => some .null
  | bool value => some (.number (if value then 1 else 0))
  | int value => some (.number value)
  | float value => some (.number value)
  | string value => some (.string value)
  | list _ => none
  | object _ => none

/-- What a loop over the value gives; `none` is a `TypeError`. -/
def items : Json → Option (List Json)
  | string value => some (value.toList.map fun c => string (String.singleton c))
  | list items => some items
  | object members => some (members.map fun member => string member.1)
  | _ => none

def text : Json → Option String
  | string value => some value
  | _ => none

/-- What counts as an integer can be compared with a count. -/
theorem number_of_isInt {value : Json} {n : ℤ} (h : value.isInt = some n) :
    value.number = some (n : ℚ) := by
  cases value with
  | bool value =>
      cases h
      cases value <;> simp [number]
  | int value =>
      cases h
      rfl
  | _ => simp [isInt] at h

theorem text_eq_some {value : Json} {t : String} :
    value.text = some t ↔ value = .string t := by
  cases value <;> simp [text]

end Json

end PythonJson
