import Mathlib.Data.List.Basic
import Mathlib.Data.Rat.Defs

/-!
# JSON values

Values as `json.loads` and the literals of a program build them. A number is its value, so an
integral float is the integer, and an object lists its members.

## Main definitions

* `Foundations.Json`: JSON values.
* `Foundations.Json.get?`: the member of an object.
* `Foundations.JsonType`: the types that a schema can ask for.
-/

namespace Foundations

/-- The values without parts. -/
inductive Scalar
  | null
  | bool (b : Bool)
  | num (q : ℚ)
  | str (s : String)
  deriving DecidableEq

/-- JSON values. -/
inductive Json
  | scalar (v : Scalar)
  | arr (items : List Json)
  | obj (fields : List (String × Json))

/-- The types of the `type` keyword. -/
inductive JsonType
  | null
  | boolean
  | integer
  | number
  | string
  | array
  | object
  deriving DecidableEq

namespace Json

/-- `null`. -/
@[match_pattern] abbrev null : Json := .scalar .null

/-- A Boolean. -/
@[match_pattern] abbrev bool (b : Bool) : Json := .scalar (.bool b)

/-- A number. -/
@[match_pattern] abbrev num (q : ℚ) : Json := .scalar (.num q)

/-- A string. -/
@[match_pattern] abbrev str (s : String) : Json := .scalar (.str s)

/-- A string or `null`. -/
def strOrNull : Option String → Json
  | none => null
  | some s => str s

/-- The member of the given name. -/
def get? (name : String) : Json → Option Json
  | obj fields => fields.lookup name
  | _ => none

/-- The member of the given name, or `null`. -/
def getD (name : String) (j : Json) : Json := (j.get? name).getD null

/-- The names of the members. -/
def names : Json → List String
  | obj fields => fields.map Prod.fst
  | _ => []

/-- Whether the value has the type. -/
def hasType : Json → JsonType → Bool
  | null, .null => true
  | bool _, .boolean => true
  | num q, .integer => q.den = 1
  | num _, .number => true
  | str _, .string => true
  | arr _, .array => true
  | obj _, .object => true
  | _, _ => false

/-! ### Values of a known type

These read what a schema has let pass; on anything else they give an empty value. -/

/-- A string. -/
def toStr : Json → String
  | str s => s
  | _ => ""

/-- A string or `null`. -/
def toStr? : Json → Option String
  | str s => some s
  | _ => none

/-- A Boolean. -/
def toBool : Json → Bool
  | bool b => b
  | _ => false

/-- An integer. -/
def toInt : Json → ℤ
  | num q => q.num
  | _ => 0

/-- The items of an array. -/
def toItems : Json → List Json
  | arr items => items
  | _ => []

@[simp] theorem toStr?_strOrNull (s : Option String) : (strOrNull s).toStr? = s := by
  cases s <;> rfl

@[simp] theorem get?_obj (name : String) (fields : List (String × Json)) :
    (obj fields).get? name = fields.lookup name := rfl

@[simp] theorem names_obj (fields : List (String × Json)) :
    (obj fields).names = fields.map Prod.fst := rfl

end Json

end Foundations
