import Meridian.Foundations.LoadedJson

/-!
# Comparing and searching loaded values

Equality of values as `json.loads` returns them, where Booleans and integral floats equal integers
and the order of the members of an object does not matter, and the conditions under which searches
that stop at the first hit return, if looking at an item may raise.

## Main definitions

* `Foundations.Loaded.eq`: `==`.
* `Foundations.Reached`: the items that a search looks at.

## Main results

* `Foundations.Loaded.eqItems_map_str_iff`: lists of strings are equal to nothing but themselves.
* `Foundations.returns_anyM`, `Foundations.returns_allM`: a search returns exactly if looking at
  each item that it reaches does.
-/

namespace Foundations

namespace Loaded

variable {F : Type}

/-- The value of a number, undefined for a float that is not finite. -/
def exactValue (py : PythonText F) : Loaded F → Option ℚ
  | bool b => some (if b then 1 else 0)
  | int n => some n
  | float x => py.value x
  | _ => .none

section Eq

variable (py : PythonText F) (sameFloat : F → F → Bool)

mutual

/-- `x == y`, with the equality of floats as containers compare them. -/
def eq : Loaded F → Loaded F → Bool
  | none, none => true
  | str s, str t => s = t
  | list xs, list ys => eqItems xs ys
  | dict fields, dict fields' => fields.length = fields'.length && eqFields fields fields'
  | float x, float y => sameFloat x y
  | bool b, y => exactValue py y = some (if b then 1 else 0)
  | int n, y => exactValue py y = some (n : ℚ)
  | float x, bool b => py.value x = some (if b then 1 else 0)
  | float x, int n => py.value x = some (n : ℚ)
  | _, _ => false

/-- Equality of lists. -/
def eqItems : List (Loaded F) → List (Loaded F) → Bool
  | [], [] => true
  | x :: xs, y :: ys => eq x y && eqItems xs ys
  | _, _ => false

/-- Whether every member is one of the other members, with an equal value. -/
def eqFields : List (String × Loaded F) → List (String × Loaded F) → Bool
  | [], _ => true
  | (name, x) :: fields, fields' =>
    (match fields'.lookup name with
      | some y => eq x y
      | .none => false) && eqFields fields fields'

end

end Eq

variable {py : PythonText F} {sameFloat : F → F → Bool}

theorem eq_str_iff {s : String} {y : Loaded F} : eq py sameFloat (str s) y = true ↔ y = str s := by
  cases y with
  | str t => simp [eq, eq_comm]
  | _ => simp [eq]

/-- A list of strings equals nothing but itself. -/
theorem eqItems_map_str_iff {names : List String} {ys : List (Loaded F)} :
    eqItems py sameFloat (names.map str) ys = true ↔ ys = names.map str := by
  induction names generalizing ys with
  | nil => cases ys <;> simp [eqItems]
  | cons name names ih =>
    cases ys with
    | nil => simp [eqItems]
    | cons y ys => simp [eqItems, eq_str_iff, ih]

end Loaded

/-! ### Searches -/

section Searches

variable {ε α : Type} {f : α → Except ε Bool} {l : List α} {x y : Except ε Bool} {b stop : Bool}

/-- The item is one of the list, and no item before it has stopped the search. -/
def Reached (f : α → Except ε Bool) (stop : Bool) (l : List α) (a : α) : Prop :=
  ∃ before after, l = before ++ a :: after ∧ ∀ b ∈ before, f b ≠ .ok stop

theorem reached_cons {a c : α} :
    Reached f stop (a :: l) c ↔ c = a ∨ f a ≠ .ok stop ∧ Reached f stop l c := by
  constructor
  · rintro ⟨before, after, h, hbefore⟩
    cases before with
    | nil => exact .inl (List.cons.inj h).1.symm
    | cons b before =>
      obtain ⟨rfl, rfl⟩ := List.cons.inj h
      exact .inr ⟨hbefore a List.mem_cons_self,
        before, after, rfl, fun d hd => hbefore d (List.mem_cons_of_mem a hd)⟩
  · rintro (rfl | ⟨ha, before, after, rfl, hbefore⟩)
    · exact ⟨[], l, rfl, nofun⟩
    · exact ⟨a :: before, after, rfl, List.forall_mem_cons.mpr ⟨ha, hbefore⟩⟩

/-- **A search for a hit returns exactly if looking at each item that it reaches does.** -/
theorem returns_anyM : Returns (l.anyM f) ↔ ∀ a, Reached f true l a → Returns (f a) := by
  induction l with
  | nil => exact iff_of_true ⟨false, rfl⟩ fun a ⟨before, _, h, _⟩ => by cases before <;> cases h
  | cons a l ih =>
    simp only [reached_cons, forall_eq_or_imp, List.anyM_cons]
    cases hfa : f a with
    | error e => simp
    | ok b =>
      cases b with
      | true => simp
      | false => simp [← ih]

/-- **A search for a miss returns exactly if looking at each item that it reaches does.** -/
theorem returns_allM : Returns (l.allM f) ↔ ∀ a, Reached f false l a → Returns (f a) := by
  induction l with
  | nil => exact iff_of_true ⟨true, rfl⟩ fun a ⟨before, _, h, _⟩ => by cases before <;> cases h
  | cons a l ih =>
    simp only [reached_cons, forall_eq_or_imp, List.allM_cons]
    cases hfa : f a with
    | error e => simp
    | ok b =>
      cases b with
      | true => simp [← ih]
      | false => simp

theorem ok_andM : (Except.ok b <&&> y : Except ε Bool) = if b then y else .ok false := by
  cases b <;> rfl

theorem ok_orM : (Except.ok b <||> y : Except ε Bool) = if b then .ok true else y := by
  cases b <;> rfl

theorem returns_ok_andM :
    Returns (Except.ok b <&&> y : Except ε Bool) ↔ (b = true → Returns y) := by
  cases b <;> simp [ok_andM]

end Searches

end Foundations
