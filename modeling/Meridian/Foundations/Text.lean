import Mathlib.Data.List.Infix
import Mathlib.Tactic.Common

/-!
# Operations on text

Python's string operations that Lean's own do not give in a form that computes in proofs.

## Main definitions

* `Foundations.Text.replace`: all occurrences of a text replaced from the left.
* `Foundations.Text.contains`: whether a text occurs in another.
* `Foundations.Text.pieces`: texts cut at a separator.

## Main results

* `Foundations.Text.intercalate_eq_iff`: two joined texts are equal exactly if their pieces are.
-/

namespace Foundations.Text

/-- Replace `old` by `new` in a text of which the first `skip` characters are already consumed. -/
def replaceAux (old new : List Char) : Nat → List Char → List Char
  | _, [] => []
  | skip + 1, _ :: cs => replaceAux old new skip cs
  | 0, c :: cs =>
    if old.isPrefixOf (c :: cs) then new ++ replaceAux old new (old.length - 1) cs
    else c :: replaceAux old new 0 cs

/-- `text.replace(old, new)` for a nonempty `old`. -/
def replace (text old new : String) : String :=
  .ofList (replaceAux old.toList new.toList 0 text.toList)

/-- `needle in text`. -/
def contains (needle text : String) : Bool := needle.toList <:+: text.toList

/-! ### Joined texts -/

/-- The pieces of the texts, each cut at `c`. -/
def pieces (c : Char) (texts : List String) : List (List Char) :=
  texts.flatMap fun text => text.toList.splitOn c

theorem pieces_cons (c : Char) (text : String) (texts : List String) :
    pieces c (text :: texts) = text.toList.splitOn c ++ pieces c texts :=
  List.flatMap_cons

/-- A joined list is cut into the pieces of its parts. -/
theorem splitOn_intercalate_flatMap (c : Char) :
    {parts : List (List Char)} → parts ≠ [] →
      ([c].intercalate parts).splitOn c = parts.flatMap (·.splitOn c)
  | [], h => absurd rfl h
  | [part], _ => by simp
  | part :: part' :: parts, _ => by
      have ih := splitOn_intercalate_flatMap c (List.cons_ne_nil part' parts)
      rw [List.intercalate_cons_cons, List.append_assoc, List.singleton_append,
        List.splitOn_append_cons_self, ih, ← List.flatMap_cons]

theorem splitOn_toList_intercalate (c : Char) {texts : List String} (h : texts ≠ []) :
    ((String.singleton c).intercalate texts).toList.splitOn c = pieces c texts := by
  have hmap : texts.map String.toList ≠ [] := by simpa using h
  rw [String.toList_intercalate, String.toList_singleton, splitOn_intercalate_flatMap c hmap,
    List.flatMap_map]
  rfl

/-- **Joined texts.** Texts that are joined with a separator give the same text exactly if they have
the same pieces, in the same order. -/
theorem intercalate_eq_iff (c : Char) {texts texts' : List String} (h : texts ≠ [])
    (h' : texts' ≠ []) :
    (String.singleton c).intercalate texts = (String.singleton c).intercalate texts' ↔
      pieces c texts = pieces c texts' := by
  rw [← splitOn_toList_intercalate c h, ← splitOn_toList_intercalate c h']
  constructor
  · intro heq
    rw [heq]
  · intro heq
    have hjoin := congrArg [c].intercalate heq
    rw [List.intercalate_splitOn, List.intercalate_splitOn] at hjoin
    exact String.toList_injective hjoin

/-- Texts without the separator are their own pieces. -/
theorem pieces_of_forall_not_mem {c : Char} {texts : List String}
    (h : ∀ text ∈ texts, c ∉ text.toList) : pieces c texts = texts.map String.toList := by
  induction texts with
  | nil => rfl
  | cons text texts ih =>
    obtain ⟨htext, htexts⟩ := List.forall_mem_cons.mp h
    rw [pieces_cons, List.splitOn_eq_singleton htext, ih htexts, List.map_cons,
      List.singleton_append]

end Foundations.Text
