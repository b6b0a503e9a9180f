import Meridian.Foundations.JsonSchema

/-!
# Refinement of schemas

A syntactic check that one schema accepts only what another accepts. It compares keyword by keyword
and goes down into items and members; where it cannot tell it says no. The types that a value may
have are also looked for in the combinators.

## Main definitions

* `Foundations.Schema.confines`: the values that a schema accepts have one of the given types.
* `Foundations.Schema.refinedBy`: the check.

## Main results

* `Foundations.Schema.hasType_of_confines`, `Foundations.Schema.accepts_of_refinedBy`: they are
  sound.
* `Foundations.Schema.accepts_concat_required`: members that a schema is to require besides.
-/

namespace Foundations

/-! ### Types -/

mutual

/-- Whether the keyword admits values of the given types only. -/
def Keyword.confines (types : List JsonType) : Keyword → Bool
  | .type types' => types'.all types.contains
  | .allOf schemas => confinesAny types schemas
  | .oneOf schemas => confinesEach types schemas
  | _ => false

/-- Whether one of the keywords does. -/
def Schema.confines (types : List JsonType) : List Keyword → Bool
  | [] => false
  | k :: ks => k.confines types || Schema.confines types ks

/-- Whether one of the schemas does. -/
def confinesAny (types : List JsonType) : List (List Keyword) → Bool
  | [] => false
  | s :: ss => Schema.confines types s || confinesAny types ss

/-- Whether each of the schemas does. -/
def confinesEach (types : List JsonType) : List (List Keyword) → Bool
  | [] => true
  | s :: ss => Schema.confines types s && confinesEach types ss

end

variable {types : List JsonType} {source target : Schema} {schemas : List Schema} {j : Json}

theorem Schema.all_admits_of_accepts (h : source.accepts j = true) :
    source.all (Keyword.admits · j) = true := by
  rw [Schema.accepts_eq, Bool.and_eq_true] at h
  exact h.1

mutual

theorem Keyword.hasType_of_confines :
    (k : Keyword) → k.confines types = true → k.admits j = true → types.any j.hasType = true
  | .type types', hk, hj => by
      rw [Keyword.admits_type, List.any_eq_true] at hj
      obtain ⟨t, ht, hj⟩ := hj
      have hmem := List.all_eq_true.mp hk t ht
      exact List.any_eq_true.mpr ⟨t, List.contains_iff_mem.mp hmem, hj⟩
  | .allOf schemas, hk, hj => by
      rw [Keyword.admits_allOf] at hj
      exact hasType_of_confinesAny schemas hk hj
  | .oneOf schemas, hk, hj => by
      rw [Keyword.admits_oneOf, decide_eq_true_eq] at hj
      have hany : schemas.any (Schema.accepts · j) = true := by
        rw [List.any_eq_true]
        exact List.countP_pos_iff.mp (by rw [hj]; exact Nat.one_pos)
      exact hasType_of_confinesEach schemas hk hany

/-- What a schema accepts has one of the types that it confines values to. -/
theorem Schema.hasType_of_confines_all : (ks : List Keyword) → Schema.confines types ks = true →
    ks.all (Keyword.admits · j) = true → types.any j.hasType = true
  | k :: ks, hk, hj => by
      rw [List.all_cons, Bool.and_eq_true] at hj
      rcases Bool.or_eq_true_iff.mp hk with hk | hk
      · exact Keyword.hasType_of_confines k hk hj.1
      · exact Schema.hasType_of_confines_all ks hk hj.2

theorem hasType_of_confinesAny : (schemas : List Schema) → confinesAny types schemas = true →
    schemas.all (Schema.accepts · j) = true → types.any j.hasType = true
  | s :: ss, hk, hj => by
      rw [List.all_cons, Bool.and_eq_true] at hj
      rcases Bool.or_eq_true_iff.mp hk with hk | hk
      · exact Schema.hasType_of_confines_all s hk (Schema.all_admits_of_accepts hj.1)
      · exact hasType_of_confinesAny ss hk hj.2

theorem hasType_of_confinesEach : (schemas : List Schema) → confinesEach types schemas = true →
    schemas.any (Schema.accepts · j) = true → types.any j.hasType = true
  | s :: ss, hk, hj => by
      obtain ⟨hs, hss⟩ := Bool.and_eq_true_iff.mp hk
      rw [List.any_cons, Bool.or_eq_true] at hj
      rcases hj with hj | hj
      · exact Schema.hasType_of_confines_all s hs (Schema.all_admits_of_accepts hj)
      · exact hasType_of_confinesEach ss hss hj

end

/-! ### The check -/

/-- Whether the keyword is `additionalProperties: false`. -/
def Keyword.closesOff : Keyword → Bool
  | .noAdditionalProperties => true
  | _ => false

/-- Whether the keyword lists values, all of them among the given ones. -/
def Keyword.lists (values : List Scalar) : Keyword → Bool
  | .enum values' => values'.all values.contains
  | _ => false

/-- Whether the keyword requires the member. -/
def Keyword.requires (name : String) : Keyword → Bool
  | .required names => names.contains name
  | _ => false

/-- The items of the keyword, or nothing. -/
def Keyword.itemsOf : Keyword → Option Schema
  | .items schema => some schema
  | _ => none

/-- The schema that the keyword has for the member, if it is about it. -/
def Keyword.memberOf (name : String) : Keyword → Option Schema
  | .property name' schema => if name' = name then some schema else none
  | _ => none

/-- Whether an object without members beyond those that the one schema declares has none beyond
those that the other declares, as far as the other asks for it. -/
def Schema.closedBy (target source : Schema) : Bool :=
  target.all fun k =>
    match k with
    | .noAdditionalProperties =>
      source.any Keyword.closesOff &&
        (source.filterMap Keyword.declares).all (target.filterMap Keyword.declares).contains
    | .noUnevaluatedProperties => false
    | _ => true

mutual

/-- Whether the schema says what the keyword does. -/
def Keyword.coveredBy : Keyword → Schema → Bool
  | .type types, source => Schema.confines types source
  | .enum values, source => source.any (Keyword.lists values)
  | .items schema, source => (source.filterMap Keyword.itemsOf).any fun s =>
      coveredAll schema s && Schema.closedBy schema s
  | .required names, source => names.all fun name => source.any (Keyword.requires name)
  | .property name schema, source =>
      (source.any Keyword.closesOff && !(source.filterMap Keyword.declares).contains name) ||
        (source.filterMap (Keyword.memberOf name)).any fun s =>
          coveredAll schema s && Schema.closedBy schema s
  | .noAdditionalProperties, _ => true
  | _, _ => false

/-- Whether it says what all keywords do. -/
def coveredAll : List Keyword → Schema → Bool
  | [], _ => true
  | k :: ks, source => k.coveredBy source && coveredAll ks source

end

/-- Whether all that the second schema accepts is accepted by the first, as far as can be told. -/
def Schema.refinedBy (target source : Schema) : Bool :=
  coveredAll target source && Schema.closedBy target source

/-! ### Its soundness -/

theorem Keyword.closes_of_closesOff (h : source.any Keyword.closesOff = true)
    (hj : source.accepts j = true) :
    j.names.all (source.filterMap Keyword.declares).contains = true := by
  obtain ⟨k, hk, hcloses⟩ := List.any_eq_true.mp h
  rw [Schema.accepts_eq, Bool.and_eq_true] at hj
  cases k with
  | noAdditionalProperties => exact List.all_eq_true.mp hj.2 _ hk
  | _ => cases hcloses

/-- A member of a closed object is declared. -/
theorem Schema.get?_eq_none (h : source.any Keyword.closesOff = true)
    (hj : source.accepts j = true) {name : String}
    (hname : (source.filterMap Keyword.declares).contains name = false) : j.get? name = none := by
  have hall := List.all_eq_true.mp (Keyword.closes_of_closesOff h hj)
  cases hget : j.get? name with
  | none => rfl
  | some x =>
    have hmem : name ∈ j.names := by
      cases j with
      | obj fields =>
        obtain ⟨front, back, hfields, -⟩ := List.lookup_eq_some_iff.mp hget
        simp [hfields]
      | _ => cases hget
    rw [hall name hmem] at hname
    cases hname

theorem Keyword.exists_lists {values : List Scalar} (h : source.any (Keyword.lists values) = true) :
    ∃ values', .enum values' ∈ source ∧ values'.all values.contains = true := by
  obtain ⟨k, hk, hlists⟩ := List.any_eq_true.mp h
  cases k with
  | enum values' => exact ⟨values', hk, hlists⟩
  | _ => cases hlists

theorem Keyword.exists_requires {name : String}
    (h : source.any (Keyword.requires name) = true) :
    ∃ names, .required names ∈ source ∧ name ∈ names := by
  obtain ⟨k, hk, hrequires⟩ := List.any_eq_true.mp h
  cases k with
  | required names => exact ⟨names, hk, List.contains_iff_mem.mp hrequires⟩
  | _ => cases hrequires

theorem Keyword.mem_of_itemsOf {s : Schema} (h : s ∈ source.filterMap Keyword.itemsOf) :
    .items s ∈ source := by
  obtain ⟨k, hk, hitems⟩ := List.mem_filterMap.mp h
  cases k with
  | items schema => exact Option.some.inj hitems ▸ hk
  | _ => cases hitems

theorem Keyword.mem_of_memberOf {name : String} {s : Schema}
    (h : s ∈ source.filterMap (Keyword.memberOf name)) : .property name s ∈ source := by
  obtain ⟨k, hk, hmember⟩ := List.mem_filterMap.mp h
  cases k with
  | property name' schema =>
    rw [Keyword.memberOf] at hmember
    split_ifs at hmember with hname
    exact hname ▸ Option.some.inj hmember ▸ hk
  | _ => cases hmember

/-- Members of a closed object that another schema declares too are all that there are. -/
theorem Schema.accepts_of_covered (hadmits : target.all (Keyword.admits · j) = true)
    (hclosed : Schema.closedBy target source = true) (hj : source.accepts j = true) :
    target.accepts j = true := by
  rw [Schema.accepts_eq, hadmits, Bool.true_and, List.all_eq_true]
  intro k hk
  have hcloses := List.all_eq_true.mp hclosed k hk
  cases k with
  | noAdditionalProperties =>
    obtain ⟨hoff, hdeclared⟩ := Bool.and_eq_true_iff.mp hcloses
    have hnames := List.all_eq_true.mp (Keyword.closes_of_closesOff hoff hj)
    refine List.all_eq_true.mpr fun name hname => ?_
    exact List.all_eq_true.mp hdeclared name (List.contains_iff_mem.mp (hnames name hname))
  | noUnevaluatedProperties => cases hcloses
  | _ => rfl

mutual

theorem Keyword.admits_of_coveredBy : (k : Keyword) → {source : Schema} → {j : Json} →
    k.coveredBy source = true → source.accepts j = true → k.admits j = true
  | .type types, source, j, hk, hj => by
      rw [Keyword.admits_type]
      exact Schema.hasType_of_confines_all source hk (Schema.all_admits_of_accepts hj)
  | .enum values, source, j, hk, hj => by
      obtain ⟨values', hmem, hlists⟩ := Keyword.exists_lists hk
      have hadmits := Schema.admits_of_accepts hj hmem
      cases j with
      | scalar v =>
        rw [Keyword.admits_enum, List.contains_iff_mem] at hadmits
        rw [Keyword.admits_enum]
        exact List.all_eq_true.mp hlists v hadmits
      | arr items => cases hadmits
      | obj fields => cases hadmits
  | .items schema, source, j, hk, hj => by
      obtain ⟨s, hs, hcovers⟩ := List.any_eq_true.mp hk
      obtain ⟨hall, hclosed⟩ := Bool.and_eq_true_iff.mp hcovers
      have hadmits := Schema.admits_of_accepts hj (Keyword.mem_of_itemsOf hs)
      cases j with
      | arr items =>
        rw [Keyword.admits_items, List.all_eq_true] at hadmits ⊢
        intro x hx
        have hx := hadmits x hx
        exact Schema.accepts_of_covered (all_admits_of_coveredAll schema hall hx) hclosed hx
      | scalar v => rfl
      | obj fields => rfl
  | .required names, source, j, hk, hj => by
      cases j with
      | obj fields =>
        rw [Keyword.admits_required, List.all_eq_true]
        intro name hname
        obtain ⟨names', hmem, hrequires⟩ :=
          Keyword.exists_requires (List.all_eq_true.mp hk name hname)
        have hadmits := Schema.admits_of_accepts hj hmem
        rw [Keyword.admits_required, List.all_eq_true] at hadmits
        exact hadmits name hrequires
      | scalar v => rfl
      | arr items => rfl
  | .property name schema, source, j, hk, hj => by
      rw [Keyword.admits_property]
      rcases Bool.or_eq_true_iff.mp hk with hk | hk
      · obtain ⟨hoff, hname⟩ := Bool.and_eq_true_iff.mp hk
        rw [Schema.get?_eq_none hoff hj (by simpa using hname)]
        rfl
      · obtain ⟨s, hs, hcovers⟩ := List.any_eq_true.mp hk
        obtain ⟨hall, hclosed⟩ := Bool.and_eq_true_iff.mp hcovers
        have hadmits := Schema.admits_of_accepts hj (Keyword.mem_of_memberOf hs)
        rw [Keyword.admits_property] at hadmits
        cases hget : j.get? name with
        | none => rfl
        | some x =>
          rw [hget, Option.all_some] at hadmits
          rw [Option.all_some]
          exact Schema.accepts_of_covered (all_admits_of_coveredAll schema hall hadmits) hclosed
            hadmits
  | .noAdditionalProperties, _, _, _, _ => rfl

theorem all_admits_of_coveredAll : (ks : List Keyword) → {source : Schema} → {j : Json} →
    coveredAll ks source = true → source.accepts j = true → ks.all (Keyword.admits · j) = true
  | [], _, _, _, _ => rfl
  | k :: ks, source, j, hk, hj => by
      obtain ⟨hk, hks⟩ := Bool.and_eq_true_iff.mp hk
      rw [List.all_cons, Keyword.admits_of_coveredBy k hk hj, Bool.true_and]
      exact all_admits_of_coveredAll ks hks hj

end

/-- **Refinement.** What the second schema accepts is accepted by the first. -/
theorem Schema.accepts_of_refinedBy (h : Schema.refinedBy target source = true)
    (hj : source.accepts j = true) : target.accepts j = true := by
  obtain ⟨hall, hclosed⟩ := Bool.and_eq_true_iff.mp h
  exact Schema.accepts_of_covered (all_admits_of_coveredAll target hall hj) hclosed hj

/-- A schema of objects that is to require more members. -/
theorem Schema.accepts_concat_required {names : List String}
    (hclosing : source.all (fun k => k.isOpen || k.closesOff) = true) :
    Schema.accepts (source ++ [.required names]) j = true ↔
      source.accepts j = true ∧ (Keyword.required names).admits j = true := by
  have hdeclares : (source ++ [Keyword.required names]).filterMap Keyword.declares =
      source.filterMap Keyword.declares := by
    rw [List.filterMap_append]
    exact List.append_nil _
  have hcloses (evaluated evaluated' : List String) :
      source.all (Keyword.closes (source ++ [.required names]) evaluated j) =
        source.all (Keyword.closes source evaluated' j) := by
    rw [Bool.eq_iff_iff, List.all_eq_true, List.all_eq_true]
    refine forall₂_congr fun k hk => ?_
    cases k with
    | noAdditionalProperties => rw [Keyword.closes, Keyword.closes, hdeclares]
    | noUnevaluatedProperties =>
      cases List.all_eq_true.mp hclosing _ hk
    | _ => exact Iff.rfl
  simp only [Schema.accepts_eq, List.all_append, List.all_cons, List.all_nil, Bool.and_true,
    Bool.and_eq_true]
  rw [hcloses _ ((evalAll source j).getD [])]
  have hrequired (evaluated : List String) : Keyword.closes (source ++ [.required names])
      evaluated j (.required names) = true := rfl
  rw [hrequired]
  tauto

end Foundations
