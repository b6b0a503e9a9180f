import Mathlib.Data.List.Basic
import Mathlib.Tactic.Common

/-!
# Executions of deterministic labelled systems

A system is a partial step function `step : σ → α → Option σ`. The label `a` names who moves and
what the environment supplies; it is enabled in the state `s` when `step s a` is defined. An
execution is a list of labels, so every interleaving of concurrent parties is one such list.

## Main definitions

* `Foundations.exec`: the state after a list of labels, if all of them are enabled.
* `Foundations.Along`: every step taken along a list of labels satisfies a condition on the
  state before, the label and the state after.
* `Foundations.Reachable`: reachability by some list of labels.

## Main results

* `Foundations.exec_invariant`: what every step preserves holds in every state reached.
* `Foundations.along_invariant`: the same under a condition on the steps taken.
* `Foundations.along_of_invariant`: an invariant that implies a condition on each step.
* `Foundations.along_state_iff`: a condition on the steps that says when a property stays.
* `Foundations.exec_state_iff`: the same at the end, for a property that does not come back.
* `Foundations.along_exists_exec`: an invariant under which every label is enabled.
* `Foundations.along_relation`: a preorder that contains the steps contains the execution.
* `Foundations.along_simulation`: what follows each step that meets a condition follows the run.
* `Foundations.along_iff_split`: `Along` as a statement about each occurrence of a label.
-/

namespace Foundations

variable {σ α : Type*} (step : σ → α → Option σ)

/-- The state reached from `s` by the labels `as`, if each of them is enabled in its turn. -/
def exec : σ → List α → Option σ
  | s, [] => some s
  | s, a :: as => (step s a).bind fun t => exec t as

/-- Reachability by some list of labels. -/
def Reachable (s t : σ) : Prop := ∃ as, exec step s as = some t

/-- Every step taken from `s` along `as` satisfies `C`. -/
def Along (C : σ → α → σ → Prop) : σ → List α → Prop
  | _, [] => True
  | s, a :: as => ∀ t, step s a = some t → C s a t ∧ Along C t as

variable {step} {C C' : σ → α → σ → Prop} {s t u : σ} {a : α} {as bs : List α}

/-! ### Composition -/

@[simp] theorem exec_nil : exec step s [] = some s := rfl

theorem exec_cons : exec step s (a :: as) = (step s a).bind fun t => exec step t as := rfl

theorem exec_cons_eq_some :
    exec step s (a :: as) = some u ↔ ∃ t, step s a = some t ∧ exec step t as = some u := by
  rw [exec_cons, Option.bind_eq_some_iff]

theorem exec_append :
    (as : List α) → (s : σ) → exec step s (as ++ bs) = (exec step s as).bind (exec step · bs)
  | [], _ => rfl
  | a :: as, s => by
      rw [List.cons_append, exec_cons, exec_cons, Option.bind_assoc]
      exact congrArg (Option.bind (step s a)) (funext fun t => exec_append as t)

theorem exec_append_eq_some :
    exec step s (as ++ bs) = some u ↔ ∃ t, exec step s as = some t ∧ exec step t bs = some u := by
  rw [exec_append, Option.bind_eq_some_iff]

theorem exec_concat_eq_some :
    exec step s (as ++ [a]) = some u ↔ ∃ t, exec step s as = some t ∧ step t a = some u := by
  simp only [exec_append_eq_some, exec_cons_eq_some, exec_nil, Option.some.injEq, exists_eq_right]

theorem Reachable.refl (s : σ) : Reachable step s s := ⟨[], rfl⟩

theorem Reachable.tail (h : Reachable step s t) (ha : step t a = some u) : Reachable step s u := by
  obtain ⟨as, has⟩ := h
  exact ⟨as ++ [a], exec_concat_eq_some.mpr ⟨t, has, ha⟩⟩

/-! ### Conditions along an execution -/

instance decidableAlong [∀ s a t, Decidable (C s a t)] :
    (as : List α) → (s : σ) → Decidable (Along step C s as)
  | [], _ => isTrue trivial
  | a :: as, s =>
    match h : step s a with
    | none => isTrue fun t ht => by rw [h] at ht; cases ht
    | some t =>
      have : Decidable (Along step C t as) := decidableAlong as t
      decidable_of_iff (C s a t ∧ Along step C t as)
        ⟨fun hC t' ht' => by obtain rfl := Option.some.inj (h.symm.trans ht'); exact hC,
          fun hC => hC t h⟩

theorem Along.cons (ht : step s a = some t) (hc : C s a t) (h : Along step C t as) :
    Along step C s (a :: as) := by
  intro t' ht'
  obtain rfl := Option.some.inj (ht.symm.trans ht')
  exact ⟨hc, h⟩

theorem Along.mono (hC : ∀ s a t, step s a = some t → C s a t → C' s a t) :
    {as : List α} → {s : σ} → Along step C s as → Along step C' s as
  | [], _, _ => trivial
  | _ :: _, _, h => fun t ht => ⟨hC _ _ _ ht (h t ht).1, Along.mono hC (h t ht).2⟩

theorem along_and :
    {as : List α} → {s : σ} →
      (Along step (fun s a t => C s a t ∧ C' s a t) s as ↔ Along step C s as ∧ Along step C' s as)
  | [], _ => ⟨fun _ => ⟨trivial, trivial⟩, fun _ => trivial⟩
  | _ :: _, _ => by
      simp only [Along, along_and]
      exact ⟨fun h => ⟨fun t ht => ⟨(h t ht).1.1, (h t ht).2.1⟩,
        fun t ht => ⟨(h t ht).1.2, (h t ht).2.2⟩⟩,
        fun h t ht => ⟨⟨(h.1 t ht).1, (h.2 t ht).1⟩, (h.1 t ht).2, (h.2 t ht).2⟩⟩

theorem along_append :
    {as : List α} → {s : σ} →
      (Along step C s (as ++ bs) ↔
        Along step C s as ∧ ∀ t, exec step s as = some t → Along step C t bs)
  | [], s => by simp [Along]
  | a :: as, s => by
      simp only [List.cons_append, Along, along_append, exec_cons_eq_some, forall_exists_index,
        and_imp]
      exact ⟨fun h => ⟨fun t ht => ⟨(h t ht).1, (h t ht).2.1⟩,
        fun t t' ht' ht => (h t' ht').2.2 t ht⟩,
        fun h t ht => ⟨(h.1 t ht).1, (h.1 t ht).2, fun u hu => h.2 u t ht hu⟩⟩

/-- Conditions that agree at the labels of an execution hold along it together. -/
theorem along_congr :
    {as : List α} → {s : σ} →
      (∀ a ∈ as, ∀ s t, step s a = some t → (C s a t ↔ C' s a t)) →
      (Along step C s as ↔ Along step C' s as)
  | [], _, _ => Iff.rfl
  | a :: _, s, h =>
    forall_congr' fun t => forall_congr' fun ht =>
      and_congr (h a List.mem_cons_self s t ht)
        (along_congr fun b hb => h b (List.mem_cons_of_mem a hb))

/-- A condition holds along an execution exactly when it holds at each occurrence of a label. -/
theorem along_iff_split (as : List α) (s : σ) :
    Along step C s as ↔ ∀ pre a post t u, as = pre ++ a :: post → exec step s pre = some t →
      step t a = some u → C t a u := by
  induction as generalizing s with
  | nil => simp [Along]
  | cons b as ih =>
    simp only [Along, ih]
    constructor
    · intro h pre a post t u has hpre hu
      cases pre with
      | nil =>
        simp only [List.nil_append, List.cons.injEq] at has
        obtain ⟨rfl, rfl⟩ := has
        cases hpre
        exact (h u hu).1
      | cons c pre =>
        simp only [List.cons_append, List.cons.injEq] at has
        obtain ⟨rfl, rfl⟩ := has
        obtain ⟨v, hv, hpre⟩ := exec_cons_eq_some.mp hpre
        exact (h v hv).2 pre a post t u rfl hpre hu
    · intro h t ht
      refine ⟨h [] b as s t rfl rfl ht, fun pre a post v u has hpre hu => ?_⟩
      exact h (b :: pre) a post v u (by rw [has, List.cons_append])
        (exec_cons_eq_some.mpr ⟨t, ht, hpre⟩) hu

/-! ### Invariants -/

/-- **Invariant rule.** What every step preserves holds in every state reached. -/
theorem exec_invariant (P : σ → Prop) (hstep : ∀ s a t, P s → step s a = some t → P t) :
    {as : List α} → {s : σ} → P s → exec step s as = some t → P t
  | [], _, hs, h => by cases h; exact hs
  | a :: as, s, hs, h => by
      obtain ⟨v, hv, h⟩ := exec_cons_eq_some.mp h
      exact exec_invariant P hstep (hstep s a v hs hv) h

/-- **Invariant rule under a condition.** What every step that meets `C` preserves holds in every
state reached by steps that all meet `C`. -/
theorem along_invariant (P : σ → Prop)
    (hstep : ∀ s a t, P s → C s a t → step s a = some t → P t) :
    {as : List α} → {s : σ} → P s → Along step C s as → exec step s as = some t → P t
  | [], _, hs, _, h => by cases h; exact hs
  | a :: as, s, hs, hC, h => by
      obtain ⟨v, hv, h⟩ := exec_cons_eq_some.mp h
      obtain ⟨hav, hC⟩ := hC v hv
      exact along_invariant P hstep (hstep s a v hs hav hv) hC h

/-- An invariant of the steps that meet `C` gives, with `C`, a further condition along the
execution. -/
theorem along_of_invariant (P : σ → Prop)
    (hstep : ∀ s a t, P s → C s a t → step s a = some t → P t)
    (hC' : ∀ s a t, P s → C s a t → step s a = some t → C' s a t) :
    {as : List α} → {s : σ} → P s → Along step C s as → Along step C' s as
  | [], _, _, _ => trivial
  | a :: _, s, hs, hC => fun t ht =>
      ⟨hC' s a t hs (hC t ht).1 ht,
        along_of_invariant P hstep hC' (hstep s a t hs (hC t ht).1 ht) (hC t ht).2⟩

/-- **State rule.** Where a condition says, of each step from a state with the invariant and the
property, whether the property stays, it says along an execution whether it holds throughout. -/
theorem along_state_iff (I P : σ → Prop) (hI : ∀ s a t, I s → step s a = some t → I t)
    (hP : ∀ s a t, I s → P s → step s a = some t → (P t ↔ C s a t)) :
    {as : List α} → {s : σ} → I s → P s →
      (Along step (fun _ _ t => P t) s as ↔ Along step C s as)
  | [], _, _, _ => Iff.rfl
  | a :: _, s, hs, hPs => by
      refine forall_congr' fun t => forall_congr' fun ht => ?_
      constructor
      · rintro ⟨hPt, h⟩
        exact ⟨(hP s a t hs hPs ht).mp hPt, (along_state_iff I P hI hP (hI s a t hs ht) hPt).mp h⟩
      · rintro ⟨hC, h⟩
        have hPt := (hP s a t hs hPs ht).mpr hC
        exact ⟨hPt, (along_state_iff I P hI hP (hI s a t hs ht) hPt).mpr h⟩

/-- **Final state rule.** Where moreover the property does not come back, it holds at the end
exactly if the condition holds along the execution. -/
theorem exec_state_iff (I P : σ → Prop) (hI : ∀ s a t, I s → step s a = some t → I t)
    (hP : ∀ s a t, I s → P s → step s a = some t → (P t ↔ C s a t))
    (hback : ∀ s a t, I s → step s a = some t → P t → P s) :
    {as : List α} → {s : σ} → I s → P s → exec step s as = some t →
      (P t ↔ Along step C s as)
  | [], s, _, hPs, h => by
      obtain rfl := Option.some.inj h
      exact iff_of_true hPs trivial
  | a :: as, s, hs, hPs, h => by
      obtain ⟨v, hv, h⟩ := exec_cons_eq_some.mp h
      have hfirst : P t → P v := fun hPt => by
        by_contra hne
        refine (exec_invariant (fun u => I u ∧ ¬ P u) (fun u b u' hu hu' => ?_)
          ⟨hI s a v hs hv, hne⟩ h).2 hPt
        exact ⟨hI u b u' hu.1 hu', fun hPu' => hu.2 (hback u b u' hu.1 hu' hPu')⟩
      constructor
      · intro hPt
        have hPv := hfirst hPt
        have hrest := exec_state_iff I P hI hP hback (hI s a v hs hv) hPv h
        exact .cons hv ((hP s a v hs hPs hv).mp hPv) (hrest.mp hPt)
      · intro hC
        obtain ⟨hav, hC⟩ := hC v hv
        have hPv := (hP s a v hs hPs hv).mpr hav
        exact (exec_state_iff I P hI hP hback (hI s a v hs hv) hPv h).mpr hC

/-- **Progress rule.** An invariant of the steps that meet `C` under which every label is enabled
lets the execution run to its end. -/
theorem along_exists_exec (P : σ → Prop)
    (hstep : ∀ s a t, P s → C s a t → step s a = some t → P t)
    (henabled : ∀ s a, P s → ∃ t, step s a = some t) :
    {as : List α} → {s : σ} → P s → Along step C s as → ∃ t, exec step s as = some t
  | [], s, _, _ => ⟨s, rfl⟩
  | a :: _, s, hs, hC => by
      obtain ⟨v, hv⟩ := henabled s a hs
      obtain ⟨hav, hC⟩ := hC v hv
      obtain ⟨t, ht⟩ := along_exists_exec P hstep henabled (hstep s a v hs hav hv) hC
      exact ⟨t, exec_cons_eq_some.mpr ⟨v, hv, ht⟩⟩

/-- **Relation rule.** A preorder that contains every step taken contains the whole execution. -/
theorem along_relation (R : σ → σ → Prop) (hrefl : ∀ s, R s s)
    (htrans : ∀ s t u, R s t → R t u → R s u)
    (h : Along step (fun s _ t => R s t) s as) (hs : exec step s as = some t) : R s t :=
  along_invariant (R s) (fun u _ v hu huv _ => htrans s u v hu huv) (hrefl s) h hs

/-- **Simulation rule.** A system that follows each step that meets `C` of another, from related
states to related states, follows the executions whose steps all meet it. -/
theorem along_simulation {τ : Type*} {step' : τ → α → Option τ} (R : σ → τ → Prop)
    (hstep : ∀ s s' a t, R s s' → C s a t → step s a = some t →
      ∃ t', step' s' a = some t' ∧ R t t') :
    {as : List α} → {s : σ} → {s' : τ} → R s s' → Along step C s as → exec step s as = some t →
      ∃ t', exec step' s' as = some t' ∧ R t t'
  | [], _, s', hs, _, h => by cases h; exact ⟨s', rfl, hs⟩
  | a :: as, s, s', hs, hC, h => by
      obtain ⟨v, hv, h⟩ := exec_cons_eq_some.mp h
      obtain ⟨hav, hC⟩ := hC v hv
      obtain ⟨v', hv', hrel⟩ := hstep s s' a v hs hav hv
      obtain ⟨t', ht', ht⟩ := along_simulation R hstep hrel hC h
      exact ⟨t', exec_cons_eq_some.mpr ⟨v', hv', ht'⟩, ht⟩

theorem Reachable.invariant (P : σ → Prop) (hstep : ∀ s a t, P s → step s a = some t → P t)
    (h : Reachable step s t) (hs : P s) : P t := by
  obtain ⟨as, has⟩ := h
  exact exec_invariant P hstep hs has

end Foundations
