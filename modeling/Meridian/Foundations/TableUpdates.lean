import Meridian.Foundations.KeyedTable
import Mathlib.Data.List.Forall2

/-!
# Updates of many rows, parts of tables, and pairs of tables

The rows that a query has selected are rewritten one after the other by their keys; the rows that
meet a condition are a table of their own, which sees the statements that are about its rows; and
two tables whose rows are related one by one, with equal keys, as two implementations of one store
leave them.

## Main definitions

* `Foundations.KeyedTable.modifyEach`: rewrite the rows with the given keys, one by one.
* `Foundations.KeyedTable.restrict`: the rows that meet a condition.
* `Foundations.KeyedTable.Related`: the rows of two tables are related.

## Main results

* `Foundations.KeyedTable.lookup_modifyEach`: what becomes of each row.
* `Foundations.KeyedTable.restrict_modify`, `Foundations.KeyedTable.insert?_restrict`: a statement
  about the rows of a part acts on the part.
* `Foundations.KeyedTable.restrict_modify_of_not`, `Foundations.KeyedTable.restrict_of_insert?`: any
  other one leaves it alone.
* `Foundations.KeyedTable.Related.modify`, `Foundations.KeyedTable.Related.insert?`: statements that
  keep related rows related keep the tables related.
-/

namespace Foundations

namespace KeyedTable

variable {κ ρ ρ' : Type*} [DecidableEq κ] {key : ρ → κ} {key' : ρ' → κ}

/-! ### Many rows -/

/-- Rewrite the rows with the given keys, one statement after the other. -/
def modifyEach (t : KeyedTable key) (ks : List κ) (f : ρ → ρ) (hf : ∀ r, key (f r) = key r) :
    KeyedTable key :=
  ks.foldl (fun t k => t.modify k f hf) t

variable {t : KeyedTable key} {t' : KeyedTable key'} {k : κ} {ks : List κ} {f : ρ → ρ}
  {hf : ∀ r, key (f r) = key r}

theorem keys_modifyEach : (t.modifyEach ks f hf).keys = t.keys := by
  induction ks generalizing t with
  | nil => rfl
  | cons k ks ih =>
    rw [modifyEach, List.foldl_cons]
    exact ih.trans keys_modify

/-- A row is rewritten if its key is one of them, which occur once each. -/
theorem lookup_modifyEach (hks : ks.Nodup) :
    (t.modifyEach ks f hf).lookup k = if k ∈ ks then (t.lookup k).map f else t.lookup k := by
  induction ks generalizing t with
  | nil => simp [modifyEach]
  | cons k' ks ih =>
    obtain ⟨hnew, hnodup⟩ := List.nodup_cons.mp hks
    have hstep : (t.modifyEach (k' :: ks) f hf).lookup k =
        ((t.modify k' f hf).modifyEach ks f hf).lookup k := rfl
    rw [hstep, ih hnodup, lookup_modify]
    by_cases heq : k = k'
    · subst heq
      rw [if_neg hnew, if_pos rfl, if_pos List.mem_cons_self]
    · simp only [heq, List.mem_cons, false_or, if_false]

/-- The keys of the rows that meet a condition. -/
def select (t : KeyedTable key) (p : ρ → Bool) : List κ := (t.rows.filter p).map key

omit [DecidableEq κ] in
theorem nodup_select {p : ρ → Bool} : (t.select p).Nodup :=
  t.nodup.sublist (List.filter_sublist.map key)

theorem mem_select {p : ρ → Bool} : k ∈ t.select p ↔ ∃ r, t.lookup k = some r ∧ p r = true := by
  constructor
  · intro h
    obtain ⟨r, hr, rfl⟩ := List.mem_map.mp h
    obtain ⟨hmem, hp⟩ := List.mem_filter.mp hr
    exact ⟨r, lookup_of_mem hmem, hp⟩
  · rintro ⟨r, hr, hp⟩
    exact List.mem_map.mpr
      ⟨r, List.mem_filter.mpr ⟨mem_of_lookup hr, hp⟩, key_of_lookup hr⟩

/-- The rows that meet a condition are rewritten, and no others. -/
theorem lookup_modifyEach_select {p : ρ → Bool} : (t.modifyEach (t.select p) f hf).lookup k =
    (t.lookup k).map fun r => if p r then f r else r := by
  rw [lookup_modifyEach nodup_select]
  cases hr : t.lookup k with
  | none => simp
  | some r =>
    have hiff : k ∈ t.select p ↔ p r = true := by
      rw [mem_select, hr]
      simp
    by_cases hp : p r = true
    · rw [if_pos (hiff.mpr hp), Option.map_some, Option.map_some, if_pos hp]
    · rw [if_neg fun h => hp (hiff.mp h), Option.map_some, if_neg hp]

/-! ### Pairs of tables -/

/-- The rows of the tables are related, in their order. -/
def Related (R : ρ → ρ' → Prop) (t : KeyedTable key) (t' : KeyedTable key') : Prop :=
  List.Forall₂ R t.rows t'.rows

variable {R : ρ → ρ' → Prop} {t₁ : KeyedTable key} {t₁' : KeyedTable key'} {r : ρ} {r' : ρ'}
  {f' : ρ' → ρ'} {hf' : ∀ r, key' (f' r) = key' r}

omit [DecidableEq κ] in
theorem Related.empty : Related R (empty : KeyedTable key) (KeyedTable.empty : KeyedTable key') :=
  .nil

/-- Related rows are found under one key, or none is. -/
theorem Related.lookup (h : Related R t t') (hkey : ∀ r r', R r r' → key r = key' r') (k : κ) :
    Option.Rel R (t.lookup k) (t'.lookup k) := by
  unfold KeyedTable.lookup
  unfold Related at h
  generalize t.rows = rows at h
  generalize t'.rows = rows' at h
  induction h with
  | nil => exact .none
  | @cons r r' rows rows' hr _ ih =>
    rw [List.find?_cons, List.find?_cons, ← hkey r r' hr]
    by_cases hk : key r = k
    · rw [decide_eq_true hk]
      exact .some hr
    · rw [decide_eq_false hk]
      exact ih

/-- Statements on one key that keep its related rows related keep the tables related. -/
theorem Related.modify (h : Related R t t') (hkey : ∀ r r', R r r' → key r = key' r')
    (hR : ∀ r r', t.lookup k = some r → t'.lookup k = some r' → R r r' → R (f r) (f' r')) :
    Related R (t.modify k f hf) (t'.modify k f' hf') := by
  have hmem : ∀ r ∈ t.rows, ∀ r' ∈ t'.rows, key r = k → R r r' → R (f r) (f' r') := by
    rintro r hr r' hr' rfl hrr'
    refine hR r r' (lookup_of_mem hr) ?_ hrr'
    rw [hkey r r' hrr']
    exact lookup_of_mem hr'
  unfold Related KeyedTable.modify at *
  simp only
  generalize t.rows = rows at h hmem
  generalize t'.rows = rows' at h hmem
  induction h with
  | nil => exact .nil
  | @cons r r' rows rows' hr _ ih =>
    refine .cons ?_ (ih fun r hr r' hr' =>
      hmem r (List.mem_cons_of_mem _ hr) r' (List.mem_cons_of_mem _ hr'))
    show R (if key r = k then f r else r) (if key' r' = k then f' r' else r')
    rw [← hkey r r' hr]
    by_cases hk : key r = k
    · rw [if_pos hk, if_pos hk]
      exact hmem r List.mem_cons_self r' List.mem_cons_self hk hr
    · rw [if_neg hk, if_neg hk]
      exact hr

/-- Statements that agree on the row with the key do the same. -/
theorem modify_congr {g : ρ → ρ} {hg : ∀ r, key (g r) = key r}
    (h : ∀ r, t.lookup k = some r → f r = g r) : t.modify k f hf = t.modify k g hg := by
  refine ext_lookup (keys_modify.trans keys_modify.symm) fun k' => ?_
  rw [lookup_modify, lookup_modify]
  split_ifs with hk
  · subst hk
    cases hr : t.lookup k' with
    | none => rfl
    | some r => rw [Option.map_some, Option.map_some, h r hr]
  · rfl

/-- A statement that leaves the row with the key leaves the table. -/
theorem modify_eq_self (h : ∀ r, t.lookup k = some r → f r = r) : t.modify k f hf = t := by
  refine ext_lookup keys_modify fun k' => ?_
  rw [lookup_modify]
  split_ifs with hk
  · subst hk
    cases hr : t.lookup k' with
    | none => rfl
    | some r => rw [Option.map_some, h r hr]
  · rfl

/-- Related rows are inserted into both tables or into none. -/
theorem Related.insert? (h : Related R t t') (hkey : ∀ r r', R r r' → key r = key' r')
    (hr : R r r') :
    Option.Rel (Related R) (t.insert? r) (t'.insert? r') := by
  have hlookup := h.lookup hkey (key r)
  cases hinsert : t.insert? r with
  | none =>
    obtain ⟨row, hrow⟩ := insert?_eq_none.mp hinsert
    rw [hrow] at hlookup
    cases hrow' : t'.lookup (key r) with
    | none => rw [hrow'] at hlookup; cases hlookup
    | some row' =>
      rw [insert?_eq_none.mpr ⟨row', by rw [← hkey r r' hr, hrow']⟩]
      exact .none
  | some t₁ =>
    obtain ⟨hnone, hrows⟩ := insert?_eq_some hinsert
    rw [hnone] at hlookup
    cases hinsert' : t'.insert? r' with
    | none =>
      obtain ⟨row', hrow'⟩ := insert?_eq_none.mp hinsert'
      rw [← hkey r r' hr] at hrow'
      rw [hrow'] at hlookup
      cases hlookup
    | some t₁' =>
      obtain ⟨-, hrows'⟩ := insert?_eq_some hinsert'
      refine .some ?_
      rw [Related, hrows, hrows']
      exact List.rel_append h (.cons hr .nil)

omit [DecidableEq κ] in
/-- Related rows are removed from both tables or from none. -/
theorem Related.delete (h : Related R t t') {p : ρ → Bool} {p' : ρ' → Bool}
    (hp : ∀ r r', R r r' → p r = p' r') : Related R (t.delete p) (t'.delete p') := by
  refine List.rel_filter (fun r r' hr => ?_) h
  show (!p r) = true ↔ (!p' r') = true
  rw [hp r r' hr]

omit [DecidableEq κ] in
/-- Each row is related to one of the other table. -/
theorem Related.exists_mem (h : Related R t t') (hr' : r' ∈ t'.rows) : ∃ r ∈ t.rows, R r r' := by
  unfold Related at h
  generalize t.rows = rows at h ⊢
  generalize t'.rows = rows' at h hr'
  induction h with
  | nil => cases hr'
  | @cons r₁ r₁' rows rows' hr _ ih =>
    rcases List.mem_cons.mp hr' with rfl | hr'
    · exact ⟨r₁, List.mem_cons_self, hr⟩
    · obtain ⟨r, hmem, hr⟩ := ih hr'
      exact ⟨r, List.mem_cons_of_mem _ hmem, hr⟩

/-! ### Parts of a table -/

section Restrict

variable {p : ρ → Bool} {t₁ : KeyedTable key} {r₁ : ρ}

/-- The rows that meet a condition, as a table. -/
def restrict (t : KeyedTable key) (p : ρ → Bool) : KeyedTable key := t.delete fun r => !p r

omit [DecidableEq κ] in
theorem rows_restrict : (t.restrict p).rows = t.rows.filter p := by
  simp only [restrict, delete, Bool.not_not]

theorem lookup_restrict : (t.restrict p).lookup k = (t.lookup k).filter p := by
  simp only [restrict, lookup_delete, Bool.not_not]

/-- A row is found in a part if it is in the part wherever it is found at all. -/
theorem lookup_restrict_of (h : ∀ r, t.lookup k = some r → p r = true) :
    (t.restrict p).lookup k = t.lookup k := by
  rw [lookup_restrict]
  cases hr : t.lookup k with
  | none => rfl
  | some r => rw [Option.filter_some, if_pos (h r hr)]

theorem lookup_restrict_of_not (h : ∀ r, t.lookup k = some r → p r = false) :
    (t.restrict p).lookup k = none := by
  rw [lookup_restrict, Option.filter_eq_none_iff]
  intro r hr
  simp [h r hr]

/-- A rewrite that keeps the rows in their parts acts on each part. -/
theorem restrict_modify (hp : ∀ r, p (f r) = p r) :
    (t.modify k f hf).restrict p = (t.restrict p).modify k f hf := by
  have hrow (r : ρ) : p (if key r = k then f r else r) = p r := by
    split_ifs
    · exact hp r
    · rfl
  have hrows : ((t.modify k f hf).restrict p).rows = ((t.restrict p).modify k f hf).rows := by
    simp only [rows_restrict, modify, List.filter_map, Function.comp_def, hrow]
  generalize (t.modify k f hf).restrict p = part at hrows ⊢
  generalize (t.restrict p).modify k f hf = part' at hrows ⊢
  cases part
  cases part'
  cases hrows
  rfl

/-- A rewrite of a row that is not in a part leaves the part alone. -/
theorem restrict_modify_of_not (hp : ∀ r, p (f r) = p r)
    (hk : ∀ r, t.lookup k = some r → p r = false) :
    (t.modify k f hf).restrict p = t.restrict p := by
  rw [restrict_modify hp]
  refine modify_eq_self fun r hr => ?_
  rw [lookup_restrict_of_not hk] at hr
  cases hr

/-- A new row that is not in a part leaves the part alone. -/
theorem restrict_of_insert? (h : t.insert? r₁ = some t₁) (hp : p r₁ = false) :
    t₁.restrict p = t.restrict p := by
  obtain ⟨-, hrows⟩ := insert?_eq_some h
  simp only [restrict, delete, hrows, Bool.not_not, List.filter_append, List.filter_cons, hp,
    Bool.false_eq_true, if_false, List.filter_nil, List.append_nil]

/-- A new row of a part is inserted into the part. -/
theorem insert?_restrict (hp : p r₁ = true)
    (hk : ∀ r, t.lookup (key r₁) = some r → p r = true) :
    (t.restrict p).insert? r₁ = (t.insert? r₁).map (·.restrict p) := by
  cases hinsert : t.insert? r₁ with
  | none =>
    obtain ⟨r, hr⟩ := insert?_eq_none.mp hinsert
    exact insert?_eq_none.mpr ⟨r, (lookup_restrict_of hk).trans hr⟩
  | some t₁ =>
    obtain ⟨hnone, hrows⟩ := insert?_eq_some hinsert
    cases hpart : (t.restrict p).insert? r₁ with
    | none =>
      obtain ⟨r, hr⟩ := insert?_eq_none.mp hpart
      rw [lookup_restrict_of hk, hnone] at hr
      cases hr
    | some part =>
      obtain ⟨-, hrows'⟩ := insert?_eq_some hpart
      have heq : part.rows = (t₁.restrict p).rows := by
        rw [hrows', rows_restrict, rows_restrict, hrows, List.filter_append, List.filter_singleton,
          hp]
        rfl
      rw [Option.map_some, Option.some.injEq]
      generalize t₁.restrict p = part' at heq ⊢
      cases part
      cases part'
      cases heq
      rfl

end Restrict

end KeyedTable

end Foundations
