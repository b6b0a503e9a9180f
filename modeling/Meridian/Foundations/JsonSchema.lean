import Meridian.Foundations.Json

/-!
# JSON Schema

The keywords of draft 2020-12 that ask for types, constants, lengths, members and items, the
combinators, and the two keywords that close an object. A schema is the list of its keywords, with
one `property` for each entry of `properties`. Its evaluation collects, as the standard has it, the
names of the members that the schema and the subschemas it applies in place have evaluated, since
`unevaluatedProperties` refers to them.

## Main definitions

* `Foundations.Keyword`, `Foundations.Schema`: the syntax.
* `Foundations.Schema.eval`: the evaluation.
* `Foundations.Schema.accepts`: whether a schema accepts a value.

## Main results

* `Foundations.Schema.accepts_eq`: a schema accepts what each of its keywords admits and what has
  no members beyond those it lets the object have.
* `Foundations.Keyword.admits_items`, `Foundations.Keyword.admits_ifThen` and the like: the meaning
  of each keyword in terms of the schemas it contains.
* `Foundations.Schema.exists_member`: what an object schema requires can be read.
-/

namespace Foundations

/-- A keyword with its value. `pattern` is given by the strings that `re.search` finds it in. -/
inductive Keyword
  | type (types : List JsonType)
  | enum (values : List Scalar)
  | const (value : Scalar)
  | minLength (n : ℕ)
  | pattern (matched : String → Bool)
  | minimum (bound : ℚ)
  | minItems (n : ℕ)
  | maxItems (n : ℕ)
  | items (schema : List Keyword)
  | contains (schema : List Keyword)
  | required (names : List String)
  | property (name : String) (schema : List Keyword)
  | noAdditionalProperties
  | allOf (schemas : List (List Keyword))
  | oneOf (schemas : List (List Keyword))
  | not (schema : List Keyword)
  | ifThen (condition consequence : List Keyword)
  | noUnevaluatedProperties

/-- A schema is the list of its keywords. -/
abbrev Schema := List Keyword

/-! ### Evaluation -/

/-- The name that the keyword declares. -/
def Keyword.declares : Keyword → Option String
  | .property name _ => some name
  | _ => none

/-- Whether a keyword that closes the object lets it have its members, given those evaluated. -/
def Keyword.closes (schema : Schema) (evaluated : List String) (j : Json) : Keyword → Bool
  | .noAdditionalProperties => j.names.all (schema.filterMap Keyword.declares).contains
  | .noUnevaluatedProperties => j.names.all evaluated.contains
  | _ => true

/-- The result of a schema from what its keywords have evaluated. -/
def close (schema : Schema) (j : Json) (result : Option (List String)) : Option (List String) :=
  result.bind fun evaluated =>
    if schema.all (Keyword.closes schema evaluated j) then some evaluated else none

/-- Nothing evaluated, if the keyword is satisfied. -/
def assert (b : Bool) : Option (List String) := if b then some [] else none

mutual

/-- The names that a keyword evaluates, if it is satisfied. -/
def Keyword.eval : Keyword → Json → Option (List String)
  | .type types, j => assert (types.any j.hasType)
  | .enum values, j =>
    match j with
    | .scalar v => assert (values.contains v)
    | _ => none
  | .const value, j =>
    match j with
    | .scalar v => assert (v = value)
    | _ => none
  | .minLength n, j =>
    match j with
    | .str s => assert (n ≤ s.length)
    | _ => some []
  | .pattern matched, j =>
    match j with
    | .str s => assert (matched s)
    | _ => some []
  | .minimum bound, j =>
    match j with
    | .num q => assert (bound ≤ q)
    | _ => some []
  | .minItems n, j =>
    match j with
    | .arr items => assert (n ≤ items.length)
    | _ => some []
  | .maxItems n, j =>
    match j with
    | .arr items => assert (items.length ≤ n)
    | _ => some []
  | .items schema, j =>
    match j with
    | .arr items => assert (items.all fun x => (close schema x (evalAll schema x)).isSome)
    | _ => some []
  | .contains schema, j =>
    match j with
    | .arr items => assert (items.any fun x => (close schema x (evalAll schema x)).isSome)
    | _ => some []
  | .required names, j =>
    match j with
    | .obj fields => assert (names.all fun name => (fields.lookup name).isSome)
    | _ => some []
  | .property name schema, j =>
    match j.get? name with
    | none => some []
    | some x => (close schema x (evalAll schema x)).map fun _ => [name]
  | .noAdditionalProperties, _ => some []
  | .allOf schemas, j =>
    (evalEach schemas j).foldr (fun r acc => r.bind fun a => acc.map (a ++ ·)) (some [])
  | .oneOf schemas, j =>
    match (evalEach schemas j).filterMap id with
    | [evaluated] => some evaluated
    | _ => none
  | .not schema, j => assert (close schema j (evalAll schema j)).isNone
  | .ifThen condition consequence, j =>
    match close condition j (evalAll condition j) with
    | none => some []
    | some a => (close consequence j (evalAll consequence j)).map (a ++ ·)
  | .noUnevaluatedProperties, _ => some []

/-- The names that all keywords evaluate, if they are satisfied. -/
def evalAll : List Keyword → Json → Option (List String)
  | [], _ => some []
  | k :: ks, j => (k.eval j).bind fun a => (evalAll ks j).map (a ++ ·)

/-- The results of several schemas on one value. -/
def evalEach : List (List Keyword) → Json → List (Option (List String))
  | [], _ => []
  | s :: ss, j => close s j (evalAll s j) :: evalEach ss j

end

/-- The names that a schema evaluates, if it accepts the value. -/
def Schema.eval (schema : Schema) (j : Json) : Option (List String) :=
  close schema j (evalAll schema j)

/-- Whether the schema accepts the value. -/
def Schema.accepts (schema : Schema) (j : Json) : Bool := (schema.eval j).isSome

/-- Whether the keyword admits the value, the closing keywords apart. -/
def Keyword.admits (k : Keyword) (j : Json) : Bool := (k.eval j).isSome

/-- Whether the keyword evaluates the member. -/
def Keyword.evaluates (k : Keyword) (j : Json) (name : String) : Bool :=
  ((k.eval j).getD []).contains name

/-- Whether the schema evaluates the member. -/
def Schema.evaluates (schema : Schema) (j : Json) (name : String) : Bool :=
  ((schema.eval j).getD []).contains name

/-- The keywords that do not close the object. -/
def Keyword.isOpen : Keyword → Bool
  | .noAdditionalProperties | .noUnevaluatedProperties => false
  | _ => true

/-- The keywords that evaluate no member or the one they declare. -/
def Keyword.flat : Keyword → Bool
  | .allOf _ | .oneOf _ | .ifThen _ _ => false
  | _ => true

/-- Nonempty strings. -/
def nonemptyString : Schema := [.type [.string], .minLength 1]

/-- The strings among the given ones. -/
def stringIn (texts : List String) : Schema := [.type [.string], .enum (texts.map .str)]

/-! ### The meaning of the keywords -/

@[simp] theorem isSome_assert (b : Bool) : (assert b).isSome = b := by
  cases b <;> rfl

theorem getD_assert (b : Bool) : (assert b).getD [] = [] := by
  cases b <;> rfl

theorem isSome_close (schema : Schema) (j : Json) :
    (close schema j (evalAll schema j)).isSome = schema.accepts j := rfl

namespace Keyword

variable {schema condition consequence : Schema} {schemas : List Schema} {j : Json}

theorem admits_type (types : List JsonType) : (type types).admits j = types.any j.hasType :=
  isSome_assert _

@[simp] theorem admits_enum (values : List Scalar) (v : Scalar) :
    (enum values).admits (.scalar v) = values.contains v :=
  isSome_assert _

@[simp] theorem admits_const (value v : Scalar) :
    (const value).admits (.scalar v) = decide (v = value) :=
  isSome_assert _

@[simp] theorem admits_minLength (n : ℕ) (s : String) :
    (minLength n).admits (.str s) = decide (n ≤ s.length) :=
  isSome_assert _

@[simp] theorem admits_pattern (matched : String → Bool) (s : String) :
    (pattern matched).admits (.str s) = matched s :=
  isSome_assert _

@[simp] theorem admits_minimum (bound q : ℚ) :
    (minimum bound).admits (.num q) = decide (bound ≤ q) :=
  isSome_assert _

@[simp] theorem admits_minItems (n : ℕ) (items : List Json) :
    (minItems n).admits (.arr items) = decide (n ≤ items.length) :=
  isSome_assert _

@[simp] theorem admits_maxItems (n : ℕ) (items : List Json) :
    (maxItems n).admits (.arr items) = decide (items.length ≤ n) :=
  isSome_assert _

@[simp] theorem admits_noAdditionalProperties : noAdditionalProperties.admits j = true := rfl

@[simp] theorem admits_noUnevaluatedProperties : noUnevaluatedProperties.admits j = true := rfl

@[simp] theorem admits_items (items : List Json) :
    (Keyword.items schema).admits (.arr items) = items.all (Schema.accepts schema) :=
  isSome_assert _

@[simp] theorem admits_contains (items : List Json) :
    (Keyword.contains schema).admits (.arr items) = items.any (Schema.accepts schema) :=
  isSome_assert _

@[simp] theorem admits_required (names : List String) (fields : List (String × Json)) :
    (required names).admits (.obj fields) =
      names.all fun name => (fields.lookup name).isSome :=
  isSome_assert _

theorem eval_property (name : String) : (property name schema).eval j =
    match j.get? name with
    | none => some []
    | some x => (schema.eval x).map fun _ => [name] := rfl

@[simp] theorem admits_property (name : String) :
    (property name schema).admits j = (j.get? name).all (Schema.accepts schema) := by
  rw [admits, eval_property]
  cases j.get? name with
  | none => rfl
  | some x => exact Option.isSome_map

theorem eval_allOf_cons (s : Schema) : (allOf (s :: schemas)).eval j =
    (s.eval j).bind fun a => ((allOf schemas).eval j).map (a ++ ·) := rfl

@[simp] theorem admits_allOf : (allOf schemas).admits j = schemas.all (Schema.accepts · j) := by
  induction schemas with
  | nil => rfl
  | cons s ss ih =>
    rw [admits, eval_allOf_cons, List.all_cons, ← ih, Schema.accepts]
    cases s.eval j with
    | none => rfl
    | some a => exact Option.isSome_map

@[simp] theorem admits_not : (Keyword.not schema).admits j = !Schema.accepts schema j :=
  (isSome_assert _).trans (Option.not_isSome _).symm

theorem eval_ifThen : (ifThen condition consequence).eval j =
    match condition.eval j with
    | none => some []
    | some a => (consequence.eval j).map (a ++ ·) := rfl

/-- A conditional asks for its consequence where its condition holds. -/
@[simp] theorem admits_ifThen : (ifThen condition consequence).admits j =
    (!Schema.accepts condition j || Schema.accepts consequence j) := by
  rw [admits, eval_ifThen, Schema.accepts, Schema.accepts]
  cases condition.eval j with
  | none => rfl
  | some a => exact Option.isSome_map

theorem evalEach_eq_map : (schemas : List Schema) →
    evalEach schemas j = schemas.map (Schema.eval · j)
  | [] => rfl
  | s :: ss => congrArg (s.eval j :: ·) (evalEach_eq_map ss)

theorem eval_oneOf : (oneOf schemas).eval j =
    match (schemas.map (Schema.eval · j)).filterMap id with
    | [evaluated] => some evaluated
    | _ => none := by
  rw [← evalEach_eq_map]
  rfl

/-- `oneOf` asks for exactly one of its schemas. -/
@[simp] theorem admits_oneOf :
    (oneOf schemas).admits j = decide (schemas.countP (Schema.accepts · j) = 1) := by
  have hlen : ((schemas.map (Schema.eval · j)).filterMap id).length =
      schemas.countP (Schema.accepts · j) := by
    rw [List.filterMap_map, List.length_filterMap_eq_countP]
    rfl
  rw [admits, eval_oneOf, ← hlen]
  cases (schemas.map (Schema.eval · j)).filterMap id with
  | nil => rfl
  | cons a as =>
    cases as with
    | nil => rfl
    | cons b bs => simp

theorem evaluates_property {x : Json} {name name' : String} (h : j.get? name = some x)
    (hx : schema.accepts x = true) :
    (property name schema).evaluates j name' = (name' == name) := by
  obtain ⟨a, ha⟩ := Option.isSome_iff_exists.mp hx
  simp only [evaluates, eval_property, h, ha, Option.map_some, Option.getD_some,
    List.contains_cons, List.contains_nil, Bool.or_false]

theorem evaluates_of_flat {k : Keyword} {name : String} (hk : k.flat = true)
    (h : k.admits j = true) :
    k.evaluates j name = (k.declares = some name && (j.get? name).isSome) := by
  cases k with
  | property n s =>
    rw [admits_property] at h
    cases hget : j.get? n with
    | none =>
      by_cases hn : n = name
      · subst hn
        rw [hget, evaluates, eval_property, hget]
        simp
      · rw [evaluates, eval_property, hget]
        simp [declares, hn]
    | some x =>
      rw [hget, Option.all_some] at h
      rw [evaluates_property hget h]
      by_cases hn : n = name
      · subst hn
        simp [declares, hget]
      · simp [declares, hn, Ne.symm hn]
  | allOf | oneOf | ifThen => cases hk
  | noAdditionalProperties | noUnevaluatedProperties => rfl
  | type | not => exact congrArg (List.contains · name) (getD_assert _)
  | _ =>
    cases j with
    | scalar v =>
      cases v <;> first | rfl | exact congrArg (List.contains · name) (getD_assert _)
    | _ => first | rfl | exact congrArg (List.contains · name) (getD_assert _)

theorem evaluates_allOf {name : String} (h : (allOf schemas).admits j = true) :
    (allOf schemas).evaluates j name = schemas.any (Schema.evaluates · j name) := by
  induction schemas with
  | nil => rfl
  | cons s ss ih =>
    rw [admits_allOf, List.all_cons, Bool.and_eq_true, ← admits_allOf] at h
    obtain ⟨hs, hss⟩ := h
    specialize ih hss
    obtain ⟨a, ha⟩ := Option.isSome_iff_exists.mp hs
    obtain ⟨b, hb⟩ := Option.isSome_iff_exists.mp hss
    rw [List.any_cons, ← ih]
    simp only [evaluates, Schema.evaluates, eval_allOf_cons, ha, hb, Option.bind_some,
      Option.map_some, Option.getD_some, List.contains_append]

end Keyword

/-! ### The meaning of schemas -/

variable {schema : Schema} {j : Json}

theorem evalAll_cons (k : Keyword) (ks : List Keyword) :
    evalAll (k :: ks) j = (k.eval j).bind fun a => (evalAll ks j).map (a ++ ·) := rfl

theorem isSome_evalAll (schema : List Keyword) (j : Json) :
    (evalAll schema j).isSome = schema.all (Keyword.admits · j) := by
  induction schema with
  | nil => rfl
  | cons k ks ih =>
    rw [evalAll_cons, List.all_cons, ← ih, Keyword.admits]
    cases k.eval j with
    | none => rfl
    | some a => exact Option.isSome_map

/-- A schema evaluates the members that its keywords do. -/
theorem contains_evalAll {name : String} {ks : List Keyword}
    (h : ks.all (Keyword.admits · j) = true) :
    ((evalAll ks j).getD []).contains name = ks.any (Keyword.evaluates · j name) := by
  induction ks with
  | nil => rfl
  | cons k ks ih =>
    rw [List.all_cons, Bool.and_eq_true, ← isSome_evalAll, Keyword.admits] at h
    obtain ⟨hk, hks⟩ := h
    specialize ih (by rw [← isSome_evalAll, hks])
    obtain ⟨a, ha⟩ := Option.isSome_iff_exists.mp hk
    obtain ⟨b, hb⟩ := Option.isSome_iff_exists.mp hks
    rw [List.any_cons, ← ih]
    simp only [Keyword.evaluates, evalAll_cons, ha, hb, Option.bind_some, Option.map_some,
      Option.getD_some, List.contains_append]

/-- A schema accepts what its keywords admit and its closing keywords let be. -/
theorem Schema.accepts_eq (schema : Schema) (j : Json) :
    schema.accepts j = (schema.all (Keyword.admits · j) &&
      schema.all (Keyword.closes schema ((evalAll schema j).getD []) j)) := by
  rw [← isSome_evalAll, ← isSome_close, close]
  cases evalAll schema j with
  | none => rfl
  | some names =>
    rw [Option.bind_some, Option.getD_some, Option.isSome_some, Bool.true_and]
    split_ifs with h
    · rw [h, Option.isSome_some]
    · rw [Bool.not_eq_true] at h
      rw [h, Option.isSome_none]

theorem Schema.admits_of_accepts {k : Keyword} (h : schema.accepts j = true) (hk : k ∈ schema) :
    k.admits j = true := by
  rw [Schema.accepts_eq, Bool.and_eq_true] at h
  exact List.all_eq_true.mp h.1 k hk

/-- A schema that does not close the object accepts what its keywords admit. -/
theorem Schema.accepts_of_isOpen (hopen : schema.all Keyword.isOpen = true) :
    schema.accepts j = schema.all (Keyword.admits · j) := by
  have hcloses : schema.all (Keyword.closes schema ((evalAll schema j).getD []) j) = true := by
    rw [List.all_eq_true]
    intro k hk
    have hkopen := List.all_eq_true.mp hopen k hk
    cases k <;> first | rfl | cases hkopen
  rw [Schema.accepts_eq, hcloses, Bool.and_true]

@[simp] theorem accepts_type (types : List JsonType) :
    Schema.accepts [.type types] j = types.any j.hasType := by
  rw [Schema.accepts_of_isOpen rfl]
  simp [Keyword.admits_type]

@[simp] theorem accepts_const (value v : Scalar) :
    Schema.accepts [.const value] (.scalar v) = decide (v = value) := by
  rw [Schema.accepts_of_isOpen rfl]
  simp

@[simp] theorem accepts_nonemptyString (s : String) :
    Schema.accepts nonemptyString (.str s) = decide (s ≠ "") := by
  have hlen : 1 ≤ s.length ↔ s ≠ "" := by
    rw [Nat.one_le_iff_ne_zero, ne_eq, ne_eq, String.length_eq_zero_iff]
  rw [nonemptyString, Schema.accepts_of_isOpen rfl]
  simp [Keyword.admits_type, Json.hasType, hlen]

@[simp] theorem accepts_stringIn (texts : List String) (s : String) :
    Schema.accepts (stringIn texts) (.str s) = texts.contains s := by
  rw [stringIn, Schema.accepts_of_isOpen rfl]
  simp [Keyword.admits_type, Json.hasType]

theorem Schema.evaluates_eq {name : String} (h : schema.accepts j = true) :
    schema.evaluates j name = schema.any (Keyword.evaluates · j name) := by
  have hadmits := h
  rw [Schema.accepts_eq, Bool.and_eq_true] at hadmits
  rw [← contains_evalAll hadmits.1, Schema.evaluates, Schema.eval, close]
  rw [← isSome_close, close] at h
  cases hall : evalAll schema j with
  | none => rfl
  | some names =>
    simp only [hall, Option.bind_some] at h ⊢
    split_ifs at h with hclose
    · rw [if_pos hclose]
    · cases h

/-- A schema without combinators evaluates the members that it declares. -/
theorem Schema.evaluates_of_flat {name : String} (h : schema.accepts j = true)
    (hflat : schema.all Keyword.flat = true) :
    schema.evaluates j name =
      ((schema.filterMap Keyword.declares).contains name && (j.get? name).isSome) := by
  have hk (k : Keyword) (hk : k ∈ schema) :
      k.evaluates j name = (k.declares = some name && (j.get? name).isSome) :=
    Keyword.evaluates_of_flat (List.all_eq_true.mp hflat k hk) (Schema.admits_of_accepts h hk)
  rw [Schema.evaluates_eq h, Bool.eq_iff_iff, List.any_eq_true, Bool.and_eq_true,
    List.contains_iff_mem, List.mem_filterMap]
  constructor
  · rintro ⟨k, hmem, heval⟩
    rw [hk k hmem, Bool.and_eq_true, decide_eq_true_eq] at heval
    exact ⟨⟨k, hmem, heval.1⟩, heval.2⟩
  · rintro ⟨⟨k, hmem, hname⟩, hget⟩
    exact ⟨k, hmem, by rw [hk k hmem, hname, hget, decide_eq_true rfl, Bool.true_and]⟩

/-- A closed `allOf` asks for all of its schemas and for members that one of them evaluates. -/
theorem accepts_closed_allOf : Schema.accepts [.noUnevaluatedProperties, .allOf schemas] j =
    (schemas.all (Schema.accepts · j) &&
      j.names.all fun name => schemas.any (Schema.evaluates · j name)) := by
  rw [Schema.accepts_eq]
  simp only [List.all_cons, List.all_nil, Keyword.admits_noUnevaluatedProperties, Bool.and_true,
    Bool.true_and, Keyword.closes, Keyword.admits_allOf]
  cases hall : schemas.all (Schema.accepts · j) with
  | false => rfl
  | true =>
    have hadmits : (Keyword.allOf schemas).admits j = true := by rw [Keyword.admits_allOf, hall]
    simp only [Bool.true_and]
    congr 1
    funext name
    rw [contains_evalAll (by simp [hall]), List.any_cons, List.any_cons, List.any_nil,
      Bool.or_false, Keyword.evaluates_allOf hadmits]
    exact Bool.false_or _

/-! ### Reading an accepted value -/

theorem exists_hasType_of_accepts {types : List JsonType} (h : schema.accepts j = true)
    (hmem : .type types ∈ schema) : ∃ t ∈ types, j.hasType t = true := by
  have hadmits := Schema.admits_of_accepts h hmem
  rwa [Keyword.admits_type, List.any_eq_true] at hadmits

theorem exists_of_hasType_string (h : j.hasType .string = true) : ∃ s, j = .str s := by
  unfold Json.hasType at h
  split at h <;> simp_all

theorem exists_of_hasType_integer (h : j.hasType .integer = true) : ∃ n : ℤ, j = .num n := by
  unfold Json.hasType at h
  split at h <;> simp_all
  next q => exact ⟨q.num, (Rat.den_eq_one_iff q |>.mp h).symm⟩

theorem eq_null_of_hasType (h : j.hasType .null = true) : j = .null := by
  unfold Json.hasType at h
  split at h <;> simp_all

theorem exists_of_hasType_array (h : j.hasType .array = true) : ∃ items, j = .arr items := by
  unfold Json.hasType at h
  split at h <;> simp_all

theorem exists_of_hasType_object (h : j.hasType .object = true) : ∃ fields, j = .obj fields := by
  unfold Json.hasType at h
  split at h <;> simp_all

theorem accepts_nonemptyString_iff :
    Schema.accepts nonemptyString j = true ↔ ∃ s, j = .str s ∧ s ≠ "" := by
  constructor
  · intro h
    obtain ⟨t, ht, hj⟩ := exists_hasType_of_accepts h List.mem_cons_self
    obtain rfl := List.mem_singleton.mp ht
    obtain ⟨s, rfl⟩ := exists_of_hasType_string hj
    exact ⟨s, rfl, by simpa using h⟩
  · rintro ⟨s, rfl, hs⟩
    simpa using hs

theorem accepts_stringIn_iff {texts : List String} :
    Schema.accepts (stringIn texts) j = true ↔ ∃ s, j = .str s ∧ s ∈ texts := by
  constructor
  · intro h
    obtain ⟨t, ht, hj⟩ := exists_hasType_of_accepts h List.mem_cons_self
    obtain rfl := List.mem_singleton.mp ht
    obtain ⟨s, rfl⟩ := exists_of_hasType_string hj
    exact ⟨s, rfl, by simpa using h⟩
  · rintro ⟨s, rfl, hs⟩
    simpa using hs

/-- A member that an object schema requires is there, and its schema accepts it. -/
theorem Schema.exists_member {names : List String} {name : String} {s : Schema}
    (h : schema.accepts j = true) (hobj : .type [.object] ∈ schema)
    (hrequired : .required names ∈ schema) (hname : name ∈ names)
    (hproperty : .property name s ∈ schema) :
    ∃ x, j.get? name = some x ∧ s.accepts x = true := by
  obtain ⟨t, ht, hj⟩ := exists_hasType_of_accepts h hobj
  obtain rfl := List.mem_singleton.mp ht
  obtain ⟨fields, rfl⟩ := exists_of_hasType_object hj
  have hall := Schema.admits_of_accepts h hrequired
  rw [Keyword.admits_required, List.all_eq_true] at hall
  obtain ⟨x, hx⟩ := Option.isSome_iff_exists.mp (hall name hname)
  have hadmits := Schema.admits_of_accepts h hproperty
  rw [Keyword.admits_property, Json.get?_obj, hx, Option.all_some] at hadmits
  exact ⟨x, hx, hadmits⟩

/-- The value that `getD` gives for a member that a closed object requires. -/
theorem Schema.accepts_getD {properties : Schema} {names : List String} {name : String} {s : Schema}
    (h : Schema.accepts
      (.type [.object] :: .noAdditionalProperties :: .required names :: properties) j = true)
    (hname : name ∈ names) (hproperty : .property name s ∈ properties) :
    s.accepts (j.getD name) = true := by
  obtain ⟨x, hx, haccepts⟩ := Schema.exists_member h (by simp) (List.mem_cons_of_mem _
    (List.mem_cons_of_mem _ List.mem_cons_self)) hname (List.mem_cons_of_mem _
      (List.mem_cons_of_mem _ (List.mem_cons_of_mem _ hproperty)))
  rwa [Json.getD, hx, Option.getD_some]

end Foundations
