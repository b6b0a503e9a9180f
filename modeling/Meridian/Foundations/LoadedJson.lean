import Meridian.Foundations.JsonSchema

/-!
# Loaded JSON

What `json.loads` returns, and what `str`, `int`, `bool`, subscripts and iteration do with it.
Floats are of a type of their own, since `json.loads` also reads NaN and the infinities, and since
the text of a float does not follow from its value. What rests on binary floating point or on the
Unicode tables is a parameter.

## Main definitions

* `Foundations.Loaded`: the values.
* `Foundations.PythonText`: the parameters.
* `Foundations.Loaded.item`, `Foundations.Loaded.iter`, `Foundations.Loaded.toInt`: operations that
  may raise.
* `Foundations.Loaded.toJson`: the value as a schema sees it.
* `Foundations.Loaded.ofJson`: a value without fractions as it is loaded after it was dumped.

## Main results

* `Foundations.Loaded.exists_item`, `Foundations.Loaded.exists_text` and the like: what an object
  schema requires can be read.
* `Foundations.Loaded.toJson_ofJson`: what is dumped and loaded is the same to a schema.
-/

namespace Foundations

/-- The values that `json.loads` returns, with floats in `F`. -/
inductive Loaded (F : Type)
  | none
  | bool (b : Bool)
  | int (n : ℤ)
  | float (x : F)
  | str (s : String)
  | list (items : List (Loaded F))
  | dict (fields : List (String × Loaded F))

/-- The exceptions of the operations; `other` stands for those that are not caught below, such as
`ValueError` and `OverflowError`. -/
inductive LoadError
  | keyError
  | typeError
  | other
  deriving DecidableEq

/-- What rests on binary floating point or on the Unicode tables. -/
structure PythonText (F : Type) where
  /-- The value of a float, undefined for NaN and the infinities. -/
  value : F → Option ℚ
  /-- `int(text)`, undefined where it raises. -/
  int : String → Option ℤ
  /-- `str(value)` of a float or a container. -/
  repr : Loaded F → String

/-- The computation returns. -/
def Returns {ε α : Type} (r : Except ε α) : Prop := ∃ a, r = .ok a

section Returns

variable {ε α β : Type}

@[simp] theorem returns_ok (a : α) : Returns (.ok a : Except ε α) := ⟨a, rfl⟩

@[simp] theorem returns_pure (a : α) : Returns (pure a : Except ε α) := ⟨a, rfl⟩

@[simp] theorem not_returns_error (e : ε) : ¬ Returns (.error e : Except ε α) := by
  rintro ⟨a, h⟩
  cases h

@[simp] theorem ok_bind (a : α) (f : α → Except ε β) : (Except.ok a >>= f) = f a := rfl

theorem bind_eq_ok {x : Except ε α} {f : α → Except ε β} {b : β} :
    x >>= f = .ok b ↔ ∃ a, x = .ok a ∧ f a = .ok b := by
  cases x with
  | error e => exact iff_of_false nofun nofun
  | ok a => exact ⟨fun h => ⟨a, rfl, h⟩, by rintro ⟨_, ⟨⟩, h⟩; exact h⟩

theorem mapError_eq_ok {ε' : Type} {f : ε → ε'} {x : Except ε α} {a : α} :
    x.mapError f = .ok a ↔ x = .ok a := by
  cases x with
  | error e => exact iff_of_false nofun nofun
  | ok a' => exact ⟨fun h => by cases h; rfl, fun h => by cases h; rfl⟩

/-- A computation returns if its first part does and the rest after it. -/
@[simp] theorem returns_bind {x : Except ε α} {f : α → Except ε β} :
    Returns (x >>= f) ↔ ∃ a, x = .ok a ∧ Returns (f a) := by
  simp only [Returns, bind_eq_ok]
  exact ⟨fun ⟨b, a, hx, hb⟩ => ⟨a, hx, b, hb⟩, fun ⟨a, hx, b, hb⟩ => ⟨b, a, hx, hb⟩⟩

/-- A rest that always returns leaves the first part. -/
theorem returns_bind_of_forall {x : Except ε α} {f : α → Except ε β} (h : ∀ a, Returns (f a)) :
    Returns (x >>= f) ↔ Returns x := by
  simp only [returns_bind, h, and_true]
  rfl

@[simp] theorem returns_map {x : Except ε α} {f : α → β} : Returns (f <$> x) ↔ Returns x := by
  cases x with
  | error e => exact iff_of_false nofun nofun
  | ok a => exact iff_of_true ⟨f a, rfl⟩ ⟨a, rfl⟩

@[simp] theorem returns_mapM {f : α → Except ε β} {l : List α} :
    Returns (l.mapM f) ↔ ∀ a ∈ l, Returns (f a) := by
  induction l with
  | nil => simp
  | cons a l ih =>
    rw [List.mapM_cons, List.forall_mem_cons, ← ih]
    simp only [returns_bind, returns_pure, and_true]
    exact ⟨fun ⟨b, hb, c, hc⟩ => ⟨⟨b, hb⟩, ⟨c, hc⟩⟩, fun ⟨⟨b, hb⟩, ⟨c, hc⟩⟩ => ⟨b, hb, c, hc⟩⟩

theorem mapM_eq_ok {f : α → Except ε β} {g : α → β} {l : List α} (h : ∀ a ∈ l, f a = .ok (g a)) :
    l.mapM f = .ok (l.map g) := by
  induction l with
  | nil => rfl
  | cons a l ih =>
    rw [List.mapM_cons, h a List.mem_cons_self,
      ih fun b hb => h b (List.mem_cons_of_mem a hb)]
    rfl

end Returns

namespace Loaded

variable {F : Type} (py : PythonText F)

/-! ### Operations -/

/-- The member of a `dict`. -/
def get? (name : String) : Loaded F → Option (Loaded F)
  | dict fields => fields.lookup name
  | _ => .none

/-- `value.get(name)` of a `dict`. -/
def getD (name : String) (x : Loaded F) : Loaded F := (x.get? name).getD none

/-- `value[name]`. -/
def item (name : String) : Loaded F → Except LoadError (Loaded F)
  | dict fields =>
    match fields.lookup name with
    | some x => .ok x
    | .none => .error .keyError
  | _ => .error .typeError

/-- `str(value)`. -/
def text : Loaded F → String
  | none => "None"
  | bool b => if b then "True" else "False"
  | int n => toString n
  | str s => s
  | x => py.repr x

/-- `int(value)`. -/
def toInt : Loaded F → Except LoadError ℤ
  | bool b => .ok (if b then 1 else 0)
  | int n => .ok n
  | float x =>
    match py.value x with
    | some q => .ok (q.num.tdiv q.den)
    | .none => .error .other
  | str s =>
    match py.int s with
    | some n => .ok n
    | .none => .error .other
  | none | list _ | dict _ => .error .typeError

/-- `None if value is None else str(value)`. -/
def text? : Loaded F → Option String
  | none => .none
  | x => some (text py x)

/-- `bool(value)`. -/
def truthy : Loaded F → Bool
  | none => false
  | bool b => b
  | int n => n ≠ 0
  | float x => py.value x ≠ some 0
  | str s => s ≠ ""
  | list items => !items.isEmpty
  | dict fields => !fields.isEmpty

/-- The items that a `for` loop runs through. -/
def iter : Loaded F → Except LoadError (List (Loaded F))
  | list items => .ok items
  | str s => .ok (s.toList.map fun c => str (String.singleton c))
  | dict fields => .ok (fields.map fun m => str m.1)
  | _ => .error .typeError

variable {py} {x : Loaded F} {name : String}

theorem item_eq_ok {y : Loaded F} : x.item name = .ok y ↔ x.get? name = some y := by
  cases x with
  | dict fields =>
    simp only [item, get?]
    cases fields.lookup name <;> simp
  | _ => exact iff_of_false nofun nofun

/-! ### Values as a schema sees them -/

/-- A float as a number of the schema. One that is not finite is a number that is no integer, which
is all that the types of a schema tell of it. -/
def number (py : PythonText F) (x : F) : ℚ := (py.value x).getD (1 / 2)

mutual

/-- The value as a schema sees it. -/
def toJson (py : PythonText F) : Loaded F → Json
  | none => .null
  | bool b => .bool b
  | int n => .num n
  | float x => .num (number py x)
  | str s => .str s
  | list items => .arr (toJsons py items)
  | dict fields => .obj (toFields py fields)

/-- The items of an array. -/
def toJsons (py : PythonText F) : List (Loaded F) → List Json
  | [] => []
  | x :: xs => toJson py x :: toJsons py xs

/-- The members of an object. -/
def toFields (py : PythonText F) : List (String × Loaded F) → List (String × Json)
  | [] => []
  | (name, x) :: fields => (name, toJson py x) :: toFields py fields

end

theorem toJsons_eq_map : (items : List (Loaded F)) → toJsons py items = items.map (toJson py)
  | [] => rfl
  | x :: xs => congrArg (toJson py x :: ·) (toJsons_eq_map xs)

theorem lookup_toFields : (fields : List (String × Loaded F)) →
    (toFields py fields).lookup name = (fields.lookup name).map (toJson py)
  | [] => rfl
  | (name', x) :: fields => by
      simp only [toFields, List.lookup_cons]
      cases name == name' with
      | true => rfl
      | false => exact lookup_toFields fields

theorem get?_toJson : (toJson py x).get? name = (x.get? name).map (toJson py) := by
  cases x with
  | dict fields => exact lookup_toFields fields
  | _ => rfl

theorem getD_toJson : (toJson py x).getD name = toJson py (x.getD name) := by
  rw [Json.getD, get?_toJson, getD]
  cases x.get? name <;> rfl

/-! ### Reading what a schema accepts -/

theorem eq_str_of_hasType (h : (toJson py x).hasType .string = true) :
    x = .str (toJson py x).toStr := by
  cases x with
  | str s => rfl
  | _ => cases h

theorem eq_bool_of_hasType (h : (toJson py x).hasType .boolean = true) :
    x = .bool (toJson py x).toBool := by
  cases x with
  | bool b => rfl
  | _ => cases h

theorem toJson_eq_null_iff : toJson py x = .null ↔ x = .none := by
  cases x <;> simp [toJson]

/-- A number that a schema takes for an integer is one to `int`. -/
theorem toInt_of_hasType (h : (toJson py x).hasType .integer = true) :
    x.toInt py = .ok (toJson py x).toInt := by
  cases x with
  | int n => rfl
  | float x =>
    have hden : (number py x).den = 1 := by simpa [toJson, Json.hasType] using h
    rw [toJson, Json.toInt, toInt]
    unfold number at hden ⊢
    cases hvalue : py.value x with
    | none =>
      rw [hvalue, Option.getD_none] at hden
      exact absurd hden (by decide +kernel)
    | some q =>
      rw [hvalue, Option.getD_some] at hden
      simp [hden]
  | _ => cases h

theorem iter_of_hasType (h : (toJson py x).hasType .array = true) :
    ∃ items, x.iter = .ok items ∧ (toJson py x).toItems = items.map (toJson py) := by
  cases x with
  | list items => exact ⟨items, rfl, toJsons_eq_map items⟩
  | _ => cases h

/-- A member that a closed object requires can be subscripted. -/
theorem exists_item (name : String) (s : Schema) {properties : Schema} {names : List String}
    (h : Schema.accepts
      (.type [.object] :: .noAdditionalProperties :: .required names :: properties)
      (toJson py x) = true)
    (hname : name ∈ names) (hproperty : .property name s ∈ properties) :
    ∃ y, x.item name = .ok y ∧ s.accepts (toJson py y) = true ∧
      (toJson py x).getD name = toJson py y := by
  have hmem : .property name s ∈
      .type [.object] :: .noAdditionalProperties :: .required names :: properties :=
    List.mem_cons_of_mem _ (List.mem_cons_of_mem _ (List.mem_cons_of_mem _ hproperty))
  obtain ⟨j, hj, haccepts⟩ := Schema.exists_member h List.mem_cons_self (by simp) hname hmem
  have hgetD : (toJson py x).getD name = j := by rw [Json.getD, hj, Option.getD_some]
  rw [get?_toJson, Option.map_eq_some_iff] at hj
  obtain ⟨y, hy, rfl⟩ := hj
  exact ⟨y, item_eq_ok.mpr hy, haccepts, hgetD⟩

theorem text_of_hasType (h : (toJson py x).hasType .string = true) :
    x.text py = (toJson py x).toStr :=
  congrArg (text py) (eq_str_of_hasType h)

/-- A required text can be read. -/
theorem exists_text (name : String) (s : Schema) {properties : Schema} {names : List String}
    (h : Schema.accepts
      (.type [.object] :: .noAdditionalProperties :: .required names :: properties)
      (toJson py x) = true)
    (hname : name ∈ names) (hproperty : .property name s ∈ properties)
    (htype : .type [.string] ∈ s) :
    ∃ y, x.item name = .ok y ∧ y.text py = ((toJson py x).getD name).toStr := by
  obtain ⟨y, hy, haccepts, hgetD⟩ := exists_item name s h hname hproperty
  obtain ⟨t, ht, htype⟩ := exists_hasType_of_accepts haccepts htype
  obtain rfl := List.mem_singleton.mp ht
  exact ⟨y, hy, by rw [hgetD, text_of_hasType htype]⟩

/-- A required array can be run through, and each of its items is accepted. -/
theorem exists_items (name : String) (s item : Schema) {properties : Schema} {names : List String}
    (h : Schema.accepts
      (.type [.object] :: .noAdditionalProperties :: .required names :: properties)
      (toJson py x) = true)
    (hname : name ∈ names) (hproperty : .property name s ∈ properties)
    (htype : .type [.array] ∈ s) (hitems : .items item ∈ s) :
    ∃ y items, x.item name = .ok y ∧ y.iter = .ok items ∧
      ((toJson py x).getD name).toItems = items.map (toJson py) ∧
      ∀ z ∈ items, item.accepts (toJson py z) = true := by
  obtain ⟨y, hy, haccepts, hgetD⟩ := exists_item name s h hname hproperty
  obtain ⟨t, ht, htype⟩ := exists_hasType_of_accepts haccepts htype
  obtain rfl := List.mem_singleton.mp ht
  obtain ⟨items, hiter, htoItems⟩ := iter_of_hasType htype
  refine ⟨y, items, hy, hiter, by rw [hgetD, htoItems], fun z hz => ?_⟩
  have hadmits := Schema.admits_of_accepts haccepts hitems
  obtain ⟨js, hjs⟩ := exists_of_hasType_array htype
  rw [hjs, Keyword.admits_items, List.all_eq_true] at hadmits
  rw [hjs, Json.toItems] at htoItems
  exact hadmits _ (htoItems ▸ List.mem_map_of_mem hz)

/-- The texts of a required array. -/
theorem exists_texts (name : String) (s : Schema) {properties : Schema} {names : List String}
    (h : Schema.accepts
      (.type [.object] :: .noAdditionalProperties :: .required names :: properties)
      (toJson py x) = true)
    (hname : name ∈ names) (hproperty : .property name s ∈ properties)
    (htype : .type [.array] ∈ s) (hitems : .items nonemptyString ∈ s) :
    ∃ y items, x.item name = .ok y ∧ y.iter = .ok items ∧
      items.map (text py) = ((toJson py x).getD name).toItems.map Json.toStr := by
  obtain ⟨y, items, hy, hiter, htoItems, haccepts⟩ :=
    exists_items name s nonemptyString h hname hproperty htype hitems
  refine ⟨y, items, hy, hiter, ?_⟩
  rw [htoItems, List.map_map]
  refine List.map_congr_left fun z hz => text_of_hasType ?_
  obtain ⟨t, ht, htype⟩ := exists_hasType_of_accepts (haccepts z hz) List.mem_cons_self
  rwa [List.mem_singleton.mp ht] at htype

/-! ### Dumping and loading -/

mutual

/-- The value of a text that `json.dumps` wrote, where its numbers are integers. -/
def ofJson : Json → Loaded F
  | .null => none
  | .bool b => bool b
  | .num q => int q.num
  | .str s => str s
  | .arr items => list (ofJsons items)
  | .obj fields => dict (ofFields fields)

/-- The items of a list. -/
def ofJsons : List Json → List (Loaded F)
  | [] => []
  | j :: js => ofJson j :: ofJsons js

/-- The members of a `dict`. -/
def ofFields : List (String × Json) → List (String × Loaded F)
  | [] => []
  | (name, j) :: fields => (name, ofJson j) :: ofFields fields

end

mutual

/-- Whether all numbers of the value are integers. -/
def integral : Json → Bool
  | .scalar (.num q) => q.den = 1
  | .scalar _ => true
  | .arr items => allIntegral items
  | .obj fields => fieldsIntegral fields

/-- Whether all numbers of the values are integers. -/
def allIntegral : List Json → Bool
  | [] => true
  | j :: js => integral j && allIntegral js

/-- Whether all numbers of the members are integers. -/
def fieldsIntegral : List (String × Json) → Bool
  | [] => true
  | (_, j) :: fields => integral j && fieldsIntegral fields

end

mutual

/-- **Round trip.** What is dumped and loaded is the same to a schema. -/
theorem toJson_ofJson : (j : Json) → integral j = true → toJson py (ofJson j) = j
  | .null, _ => rfl
  | .bool _, _ => rfl
  | .num q, h => by
      simp only [integral, decide_eq_true_eq] at h
      simp only [ofJson, toJson, (Rat.den_eq_one_iff q).mp h]
  | .str _, _ => rfl
  | .arr items, h => congrArg Json.arr (toJsons_ofJsons items h)
  | .obj fields, h => congrArg Json.obj (toFields_ofFields fields h)

theorem toJsons_ofJsons : (js : List Json) → allIntegral js = true →
    toJsons py (ofJsons js) = js
  | [], _ => rfl
  | j :: js, h => by
      simp only [allIntegral, Bool.and_eq_true] at h
      simp only [ofJsons, toJsons, toJson_ofJson j h.1, toJsons_ofJsons js h.2]

theorem toFields_ofFields : (fields : List (String × Json)) → fieldsIntegral fields = true →
    toFields py (ofFields fields) = fields
  | [], _ => rfl
  | (_, j) :: fields, h => by
      simp only [fieldsIntegral, Bool.and_eq_true] at h
      simp only [ofFields, toFields, toJson_ofJson j h.1, toFields_ofFields fields h.2]

end

end Loaded

end Foundations
