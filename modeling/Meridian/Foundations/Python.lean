import Mathlib.Data.List.Basic
import Mathlib.Data.Rat.Defs
import Mathlib.Tactic.Common

/-!
# Dynamic values and patterns

The values that a program of a dynamically typed language passes on without a check, and regular
expressions. What rests on the Unicode tables or on binary floating point is a parameter.

## Main definitions

* `Foundations.PyValue`: values of the built-in types.
* `Foundations.Python`: the parameters.
* `Foundations.Pattern`: a regular expression, as all its matches in the order of a backtracking
  search.
* `Foundations.Pattern.search`: the groups of the first match in a text.
-/

namespace Foundations

/-! ### Values -/

/-- The values of the built-in types; floats are finite. -/
inductive PyValue
  | none
  | bool (b : Bool)
  | int (n : ℤ)
  | float (q : ℚ)
  | str (s : String)
  | list (items : List PyValue)
  | dict (fields : List (String × PyValue))

/-- What rests on the Unicode tables or on binary floating point. -/
structure Python where
  /-- `text.lower()`. -/
  lower : String → String
  /-- `\w`, `\s` and `\d`. -/
  isWord : Char → Bool
  isSpace : Char → Bool
  isDigit : Char → Bool
  /-- Equality under `re.IGNORECASE`. -/
  sameLetter : Char → Char → Bool
  /-- `int(text)`, undefined where it raises. -/
  int : String → Option ℤ
  /-- `str(value)` of a float or a container. -/
  repr : PyValue → String
  /-- `round(sum(values) / len(values) / divisor, 2)` of integers as floats. -/
  roundedMean : List ℤ → ℕ → ℚ

namespace PyValue

/-- A text or `None`. -/
def ofText : Option String → PyValue
  | some s => str s
  | .none => none

/-- `bool(value)`. -/
def truthy : PyValue → Bool
  | none => false
  | bool b => b
  | int n => n ≠ 0
  | float q => q ≠ 0
  | str s => s ≠ ""
  | list items => !items.isEmpty
  | dict fields => !fields.isEmpty

/-- `int(value)`, undefined where it raises `TypeError` or `ValueError`. -/
def toInt (py : Python) : PyValue → Option ℤ
  | bool b => some (if b then 1 else 0)
  | int n => some n
  | float q => some (q.num.tdiv q.den)
  | str s => py.int s
  | none | list _ | dict _ => .none

/-- `str(value)`. -/
def toText (py : Python) : PyValue → String
  | none => "None"
  | bool b => if b then "True" else "False"
  | int n => toString n
  | str s => s
  | value => py.repr value

/-- The name of the type of a value that cannot be hashed. -/
def unhashable : PyValue → Option String
  | list _ => some "list"
  | dict _ => some "dict"
  | _ => .none

end PyValue

/-! ### Regular expressions -/

/-- A place in a text with the character before it, and the groups captured up to it. -/
structure Cursor where
  before : Option Char
  rest : List Char
  groups : List String

/-- A regular expression, by the places where its matches end, the preferred one first. -/
abbrev Pattern := Cursor → List Cursor

namespace Pattern

/-- One character of a class. -/
def char (p : Char → Bool) : Pattern := fun c =>
  match c.rest with
  | [] => []
  | x :: xs => if p x then [{ c with before := some x, rest := xs }] else []

/-- The places behind one or more characters of a class, the farthest first. -/
def plusFrom (p : Char → Bool) : List Char → List (Char × List Char)
  | [] => []
  | x :: xs => if p x then plusFrom p xs ++ [(x, xs)] else []

/-- `p+`. -/
def plus (p : Char → Bool) : Pattern := fun c =>
  (plusFrom p c.rest).map fun (x, xs) => { c with before := some x, rest := xs }

/-- One pattern after the other. -/
def seq (ps : List Pattern) : Pattern := fun c =>
  ps.foldl (fun cursors p => cursors.flatMap p) [c]

/-- `p|q`. -/
def alt (p q : Pattern) : Pattern := fun c => p c ++ q c

/-- `p?`. -/
def optional (p : Pattern) : Pattern := fun c => p c ++ [c]

/-- `(p)`. -/
def group (p : Pattern) : Pattern := fun c => (p c).map fun d =>
  { d with
    groups := c.groups ++ [.ofList (c.rest.take (c.rest.length - d.rest.length))] }

/-- `\b`. -/
def boundary (isWord : Char → Bool) : Pattern := fun c =>
  if c.before.any isWord ≠ c.rest.head?.any isWord then [c] else []

/-- A text, with the given equality of characters. -/
def text (same : Char → Char → Bool) (s : String) : Pattern :=
  seq (s.toList.map fun x => char (same x))

/-- The groups of the first match from the given place on. -/
def searchFrom (p : Pattern) (before : Option Char) : List Char → Option (List String)
  | [] => (p ⟨before, [], []⟩).head?.map Cursor.groups
  | x :: xs =>
    match (p ⟨before, x :: xs, []⟩).head? with
    | some c => some c.groups
    | none => searchFrom p (some x) xs

/-- `re.search`, with the groups of the match. -/
def search (p : Pattern) (s : String) : Option (List String) := searchFrom p none s.toList

end Pattern

end Foundations
