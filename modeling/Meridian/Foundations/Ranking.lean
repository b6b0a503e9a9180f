import Mathlib.Data.List.Sort
import Mathlib.Order.Monotone.Basic
import Mathlib.Tactic.Common

/-!
# Rankings

Rows ordered by a key from the highest down, and the first rows of such an order. What is among the
first rows is determined by how many rows reach each level of the key, so two rankings can be
compared by counting.

A ranking of items by counts has a row for each item that is counted at all. If a count lies between
two bounds, the first rows of the ranking are those at the lower bounds unless some item would be
among the first at its upper bound.

## Main definitions

* `Foundations.rankBy`: the rows by descending key.
* `Foundations.countedRows`: the rows of the items that are counted.

## Main results

* `Foundations.take_rankBy_eq_iff`: when two rankings have the same first rows.
* `Foundations.take_rankBy_countedRows_eq`, `Foundations.take_rankBy_countedRows_ne`: whether larger
  counts change the first rows.
-/

namespace Foundations

variable {ρ α : Type*} [LinearOrder α] {key : ρ → α} {l l₁ l₂ : List ρ}

/-- The rows by descending key, where rows with equal keys keep their order. -/
def rankBy (key : ρ → α) (rows : List ρ) : List ρ := rows.insertionSort fun a b => key b ≤ key a

/-! ### Descending lists -/

theorem pairwise_rankBy (rows : List ρ) :
    (rankBy key rows).Pairwise fun a b => key b ≤ key a := by
  have htotal : Std.Total fun a b : ρ => key b ≤ key a := ⟨fun a b => le_total (key b) (key a)⟩
  have htrans : IsTrans ρ fun a b => key b ≤ key a := ⟨fun _ _ _ hab hbc => hbc.trans hab⟩
  exact List.pairwise_insertionSort _ _

theorem countP_rankBy (p : ρ → Bool) : (rankBy key l).countP p = l.countP p :=
  (List.perm_insertionSort _ l).countP_eq p

/-- The first rows of a descending list that reach a level. -/
theorem countP_take_of_pairwise (h : l.Pairwise fun a b => key b ≤ key a) (n : ℕ) (x : α) :
    (l.take n).countP (x ≤ key ·) = min n (l.countP (x ≤ key ·)) := by
  induction l generalizing n with
  | nil => simp
  | cons a l ih =>
    obtain ⟨ha, hl⟩ := List.pairwise_cons.mp h
    cases n with
    | zero => simp
    | succ n =>
      rw [List.take_succ_cons, List.countP_cons, List.countP_cons, ih hl]
      by_cases hx : x ≤ key a
      · simp [hx]
      · have hnone : l.countP (x ≤ key ·) = 0 := by
          rw [List.countP_eq_zero]
          intro b hb
          simpa using (ha b hb).trans_lt (not_le.mp hx)
        simp [hx, hnone]

/-- Descending lists of which equally many rows reach each level are equal. -/
theorem eq_of_countP_eq (hkey : Function.Injective key)
    (h₁ : l₁.Pairwise fun a b => key b ≤ key a) (h₂ : l₂.Pairwise fun a b => key b ≤ key a)
    (h : ∀ x, l₁.countP (x ≤ key ·) = l₂.countP (x ≤ key ·)) : l₁ = l₂ := by
  induction l₁ generalizing l₂ with
  | nil =>
    cases l₂ with
    | nil => rfl
    | cons b l₂ => simpa using h (key b)
  | cons a l₁ ih =>
    cases l₂ with
    | nil => simpa using h (key a)
    | cons b l₂ =>
      obtain ⟨ha, hl₁⟩ := List.pairwise_cons.mp h₁
      obtain ⟨hb, hl₂⟩ := List.pairwise_cons.mp h₂
      have hab : key a ≤ key b := by
        have hpos : 0 < (b :: l₂).countP (key a ≤ key ·) := by simp [← h (key a)]
        obtain ⟨c, hc, hac⟩ := List.countP_pos_iff.mp hpos
        rcases List.mem_cons.mp hc with rfl | hc
        · simpa using hac
        · exact (by simpa using hac : key a ≤ key c).trans (hb c hc)
      have hba : key b ≤ key a := by
        have hpos : 0 < (a :: l₁).countP (key b ≤ key ·) := by simp [h (key b)]
        obtain ⟨c, hc, hbc⟩ := List.countP_pos_iff.mp hpos
        rcases List.mem_cons.mp hc with rfl | hc
        · simpa using hbc
        · exact (by simpa using hbc : key b ≤ key c).trans (ha c hc)
      obtain rfl := hkey (hab.antisymm hba)
      rw [ih hl₁ hl₂ fun x => by simpa only [List.countP_cons, Nat.add_right_cancel_iff] using h x]

/-- Two rankings have the same first rows if equally many rows, up to that number, reach each
level. -/
theorem take_rankBy_eq_iff (hkey : Function.Injective key) (n : ℕ) :
    (rankBy key l₁).take n = (rankBy key l₂).take n ↔
      ∀ x, min n (l₁.countP (x ≤ key ·)) = min n (l₂.countP (x ≤ key ·)) := by
  have hcount (l : List ρ) (x : α) :
      ((rankBy key l).take n).countP (x ≤ key ·) = min n (l.countP (x ≤ key ·)) := by
    rw [countP_take_of_pairwise (pairwise_rankBy l), countP_rankBy]
  constructor
  · intro h x
    rw [← hcount, ← hcount, h]
  · intro h
    refine eq_of_countP_eq hkey ((pairwise_rankBy l₁).sublist (List.take_sublist _ _))
      ((pairwise_rankBy l₂).sublist (List.take_sublist _ _)) fun x => ?_
    rw [hcount, hcount, h]

/-! ### Rankings by counts -/

section Counts

variable {ι : Type*} {row : ι → ℕ → ρ} {items : List ι} {low count high : ι → ℕ}

/-- The rows of the items that are counted, each made from the item and its count. -/
def countedRows (row : ι → ℕ → ρ) (items : List ι) (count : ι → ℕ) : List ρ :=
  (items.filter (0 < count ·)).map fun i => row i (count i)

theorem countP_countedRows (x : α) : (countedRows row items count).countP (x ≤ key ·) =
    items.countP fun i => 0 < count i ∧ x ≤ key (row i (count i)) := by
  rw [countedRows, List.countP_map, List.countP_filter]
  refine List.countP_congr fun i _ => ?_
  simp [and_comm]

theorem countP_lt_countP {p q : ι → Bool} (hpq : ∀ i ∈ items, p i = true → q i = true) {i : ι}
    (hi : i ∈ items) (hp : p i = false) (hq : q i = true) : items.countP p < items.countP q := by
  obtain ⟨s, t, rfl⟩ := List.append_of_mem hi
  have hs := List.countP_mono_left fun j hj => hpq j (List.mem_append_left _ hj)
  have ht := List.countP_mono_left fun j hj =>
    hpq j (List.mem_append_right _ (List.mem_cons_of_mem _ hj))
  simp only [List.countP_append, List.countP_cons, hp, hq]
  simp only [Bool.false_eq_true, if_false, if_true]
  omega

/-- More rows reach a level at larger counts. -/
theorem countP_countedRows_mono (hrow : ∀ i, StrictMono fun n => key (row i n))
    (hle : ∀ i ∈ items, low i ≤ count i) (x : α) :
    (countedRows row items low).countP (x ≤ key ·) ≤
      (countedRows row items count).countP (x ≤ key ·) := by
  rw [countP_countedRows, countP_countedRows]
  refine List.countP_mono_left fun i hi h => ?_
  simp only [decide_eq_true_eq] at h ⊢
  exact ⟨h.1.trans_le (hle i hi), h.2.trans ((hrow i).monotone (hle i hi))⟩

/-- Counts between the bounds do not change the first rows if no item is among them at its upper
bound, were the others at their lower ones. -/
theorem take_rankBy_countedRows_eq (hkey : Function.Injective key)
    (hrow : ∀ i, StrictMono fun n => key (row i n)) (hlow : ∀ i ∈ items, low i ≤ count i)
    (hhigh : ∀ i ∈ items, count i ≤ high i) {n : ℕ}
    (h : ∀ i ∈ items, low i < high i →
      n ≤ (countedRows row items low).countP (key (row i (high i)) ≤ key ·)) :
    (rankBy key (countedRows row items count)).take n =
      (rankBy key (countedRows row items low)).take n := by
  rw [take_rankBy_eq_iff hkey]
  intro x
  have hmono := countP_countedRows_mono hrow hlow x
  rcases le_or_gt n ((countedRows row items low).countP (x ≤ key ·)) with hn | hn
  · omega
  -- Fewer than `n` rows reach the level `x`, so no item that reaches it has room above its count.
  · have hcongr : (countedRows row items count).countP (x ≤ key ·) ≤
        (countedRows row items low).countP (x ≤ key ·) := by
      rw [countP_countedRows, countP_countedRows]
      refine List.countP_mono_left fun i hi hx => ?_
      simp only [decide_eq_true_eq] at hx ⊢
      have heq : low i = count i := by
        by_contra hne
        have hlt : low i < high i := ((hlow i hi).lt_of_ne hne).trans_le (hhigh i hi)
        have hlevel : x ≤ key (row i (high i)) := hx.2.trans ((hrow i).monotone (hhigh i hi))
        have hreach := List.countP_mono_left (l := countedRows row items low)
          (p := (key (row i (high i)) ≤ key ·)) (q := (x ≤ key ·)) fun r _ hr => by
            simp only [decide_eq_true_eq] at hr ⊢
            exact hlevel.trans hr
        have := h i hi hlt
        omega
      rw [heq]
      exact hx
    omega

/-- An item that is among the first at its upper bound changes the first rows. -/
theorem take_rankBy_countedRows_ne (hkey : Function.Injective key)
    (hrow : ∀ i, StrictMono fun n => key (row i n)) (hle : ∀ i ∈ items, low i ≤ high i) {n : ℕ}
    {i : ι} (hi : i ∈ items) (hlt : low i < high i)
    (hn : (countedRows row items low).countP (key (row i (high i)) ≤ key ·) < n) :
    (rankBy key (countedRows row items high)).take n ≠
      (rankBy key (countedRows row items low)).take n := by
  rw [ne_eq, take_rankBy_eq_iff hkey]
  intro h
  have hlt : (countedRows row items low).countP (key (row i (high i)) ≤ key ·) <
      (countedRows row items high).countP (key (row i (high i)) ≤ key ·) := by
    rw [countP_countedRows, countP_countedRows]
    refine countP_lt_countP (fun j hj hlevel => ?_) hi ?_ ?_
    · simp only [decide_eq_true_eq] at hlevel ⊢
      exact ⟨hlevel.1.trans_le (hle j hj), hlevel.2.trans ((hrow j).monotone (hle j hj))⟩
    · simpa using fun _ => hrow i hlt
    · simpa using (Nat.zero_le _).trans_lt hlt
  have := h (key (row i (high i)))
  omega

end Counts

end Foundations
