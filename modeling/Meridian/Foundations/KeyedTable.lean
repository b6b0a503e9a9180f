import Mathlib.Data.List.Nodup
import Mathlib.Data.List.Pairwise
import Mathlib.Tactic.Common

/-!
# Tables with a primary key

A table is the list of its rows in insertion order together with the fact that no two rows have
the same key, so a row is determined by its key and a statement with `WHERE key = ?` touches at
most one row.

## Main definitions

* `Foundations.KeyedTable`: rows with pairwise different keys.
* `Foundations.KeyedTable.lookup`: the row with a given key.
* `Foundations.KeyedTable.modify`: rewrite the row with a given key, keeping the key.
* `Foundations.KeyedTable.insert?`: append a row with a new key.
* `Foundations.KeyedTable.delete`: remove the rows that meet a condition.

## Main results

* `Foundations.KeyedTable.lookup_of_mem`: every row is the lookup of its key.
* `Foundations.KeyedTable.lookup_modify`, `Foundations.KeyedTable.lookup_insert?`,
  `Foundations.KeyedTable.lookup_delete`: what a rewrite, a new row and a removal do to each lookup.
* `Foundations.KeyedTable.ext_lookup`: tables with the same keys in the same order and the same
  lookups are equal.
-/

namespace Foundations

variable {κ ρ : Type*} [DecidableEq κ]

/-- A table whose rows have pairwise different keys. -/
structure KeyedTable (key : ρ → κ) where
  rows : List ρ
  nodup : (rows.map key).Nodup

namespace KeyedTable

variable {key : ρ → κ}

/-- The table without rows. -/
def empty : KeyedTable key := ⟨[], List.nodup_nil⟩

/-- The keys in the order of the rows. -/
def keys (t : KeyedTable key) : List κ := t.rows.map key

/-- The row with key `k`: `SELECT ... WHERE key = k`. -/
def lookup (t : KeyedTable key) (k : κ) : Option ρ := t.rows.find? fun r => key r = k

/-- Rewrite the row with key `k` by a function that keeps keys: `UPDATE ... WHERE key = k`. -/
def modify (t : KeyedTable key) (k : κ) (f : ρ → ρ) (hf : ∀ r, key (f r) = key r) :
    KeyedTable key where
  rows := t.rows.map fun r => if key r = k then f r else r
  nodup := by
    have h : (t.rows.map fun r => if key r = k then f r else r).map key = t.rows.map key := by
      rw [List.map_map]
      refine List.map_congr_left fun r _ => ?_
      simp only [Function.comp_apply]
      split
      · exact hf r
      · rfl
    rw [h]
    exact t.nodup

/-- Append a row with a new key: `INSERT`, which raises on a key that is there. -/
def insert? (t : KeyedTable key) (r : ρ) : Option (KeyedTable key) :=
  if h : key r ∈ t.rows.map key then none
  else some
    { rows := t.rows ++ [r]
      nodup := by
        rw [List.map_append, List.map_singleton, List.nodup_append]
        refine ⟨t.nodup, List.nodup_singleton _, fun k hk k' hk' => ?_⟩
        rintro rfl
        exact h (List.mem_singleton.mp hk' ▸ hk) }

/-- Remove the rows that meet a condition: `DELETE ... WHERE`. -/
def delete (t : KeyedTable key) (p : ρ → Bool) : KeyedTable key where
  rows := t.rows.filter fun r => !p r
  nodup := t.nodup.sublist (List.filter_sublist.map key)

variable {t t' : KeyedTable key} {k k' : κ} {r : ρ} {p : ρ → Bool} {f : ρ → ρ}
  {hf : ∀ r, key (f r) = key r}

/-! ### Lookups -/

theorem key_of_lookup (h : t.lookup k = some r) : key r = k := by
  simpa using List.find?_some h

theorem mem_of_lookup (h : t.lookup k = some r) : r ∈ t.rows := List.mem_of_find?_eq_some h

theorem lookup_of_mem (h : r ∈ t.rows) : t.lookup (key r) = some r := by
  cases hl : t.lookup (key r) with
  | none =>
    have := List.find?_eq_none.mp hl r h
    simp at this
  | some r' =>
    rw [List.inj_on_of_nodup_map t.nodup (mem_of_lookup hl) h (key_of_lookup hl)]

theorem lookup_eq_none_iff : t.lookup k = none ↔ k ∉ t.keys := by
  simp [lookup, keys, List.find?_eq_none]

/-! ### Rewriting a row -/

@[simp] theorem keys_modify : (t.modify k f hf).keys = t.keys := by
  simp only [keys, modify, List.map_map]
  refine List.map_congr_left fun r _ => ?_
  simp only [Function.comp_apply]
  split
  · exact hf r
  · rfl

/-- A rewrite of the row `k` maps the lookup of `k` and leaves every other lookup alone. -/
theorem lookup_modify :
    (t.modify k f hf).lookup k' = if k' = k then (t.lookup k').map f else t.lookup k' := by
  have hkey : ∀ r, key (if key r = k then f r else r) = key r := fun r => by
    split
    · exact hf r
    · rfl
  have hmap : (t.modify k f hf).lookup k' =
      (t.lookup k').map fun r => if key r = k then f r else r := by
    simp only [lookup, modify, List.find?_map]
    congr 2
    funext r
    simp only [Function.comp_apply, hkey]
  rw [hmap]
  cases hl : t.lookup k' with
  | none => simp
  | some r =>
    have hr := key_of_lookup hl
    by_cases h : k' = k <;> simp [hr, h]

theorem lookup_modify_eq_none : (t.modify k f hf).lookup k' = none ↔ t.lookup k' = none := by
  rw [lookup_eq_none_iff, lookup_eq_none_iff, keys_modify]

/-! ### Appending a row -/

theorem insert?_eq_some (h : t.insert? r = some t') :
    t.lookup (key r) = none ∧ t'.rows = t.rows ++ [r] := by
  unfold insert? at h
  split_ifs at h with hmem
  obtain rfl := Option.some.inj h
  exact ⟨lookup_eq_none_iff.mpr hmem, rfl⟩

theorem insert?_eq_none : t.insert? r = none ↔ ∃ r', t.lookup (key r) = some r' := by
  have hmem : (∃ r', t.lookup (key r) = some r') ↔ key r ∈ t.rows.map key := by
    rw [← Option.ne_none_iff_exists', ne_eq, lookup_eq_none_iff, not_not]
    rfl
  rw [hmem]
  unfold insert?
  split_ifs with h
  · exact iff_of_true rfl h
  · exact iff_of_false nofun h

/-- A new row is found under its key, and every other lookup is left alone. -/
theorem lookup_insert? (h : t.insert? r = some t') :
    t'.lookup k = if k = key r then some r else t.lookup k := by
  obtain ⟨hnone, hrows⟩ := insert?_eq_some h
  rw [lookup, hrows, List.find?_append]
  split_ifs with hk
  · subst hk
    have hold : (t.rows.find? fun r' => key r' = key r) = none := hnone
    rw [hold]
    simp
  · have hnew : ([r].find? fun r => key r = k) = none := by simpa using Ne.symm hk
    rw [hnew, Option.or_none]
    rfl

/-! ### Removing rows -/

/-- A removal hides exactly the rows that meet the condition. -/
theorem lookup_delete : (t.delete p).lookup k = (t.lookup k).filter fun r => !p r := by
  cases hl : (t.delete p).lookup k with
  | some r =>
    have hmem := mem_of_lookup hl
    obtain ⟨hr, hp⟩ := List.mem_filter.mp hmem
    have hold := lookup_of_mem hr
    rw [key_of_lookup hl] at hold
    rw [hold, Option.filter_some, if_pos hp]
  | none =>
    cases hold : t.lookup k with
    | none => rfl
    | some r =>
      rw [Option.filter_some, eq_comm, ite_eq_right_iff]
      intro hp
      have hmem : r ∈ (t.delete p).rows := List.mem_filter.mpr ⟨mem_of_lookup hold, hp⟩
      have hnew := lookup_of_mem hmem
      rw [key_of_lookup hold, hl] at hnew
      cases hnew

/-! ### Extensionality -/

/-- Two tables with the same keys in the same order and the same lookups are equal. -/
theorem ext_lookup (hk : t.keys = t'.keys) (hl : ∀ k, t.lookup k = t'.lookup k) : t = t' := by
  have hrows : t.rows = t'.rows := by
    have hlen : t.rows.length = t'.rows.length := by
      simpa [keys] using congrArg List.length hk
    refine List.ext_getElem hlen fun n h₁ h₂ => ?_
    have hkey : key t.rows[n] = key t'.rows[n] := by
      have hn : n < t.keys.length := by simpa [keys] using h₁
      simpa [keys] using List.getElem_of_eq hk hn
    have h₁' : t.lookup (key t.rows[n]) = some t.rows[n] := lookup_of_mem (List.getElem_mem h₁)
    have h₂' : t'.lookup (key t'.rows[n]) = some t'.rows[n] := lookup_of_mem (List.getElem_mem h₂)
    rw [hl, hkey, h₂'] at h₁'
    exact (Option.some.inj h₁').symm
  cases t
  cases t'
  cases hrows
  rfl

end KeyedTable

end Foundations
