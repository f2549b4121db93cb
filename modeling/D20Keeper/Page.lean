/-
This file is a small library of pages: the first rows of a list in the order of a key, as a query
with an order and a limit returns them. A page depends on the rows only through their keys.
-/

import Mathlib.Data.List.Sort

namespace Page

variable {Row Key : Type} [LinearOrder Key] (key : Row → Key) (limit : ℕ) (rows : List Row)

/-- `ORDER BY key LIMIT limit`. -/
def first : List Row := (rows.insertionSort fun one other => key one ≤ key other).take limit

variable {key limit rows} {row : Row}

/-- Inserting a row depends on how it compares with the rows there are. -/
theorem orderedInsert_congr {order other : Row → Row → Prop} [DecidableRel order]
    [DecidableRel other] {sorted : List Row}
    (same : ∀ next ∈ sorted, order row next ↔ other row next) :
    sorted.orderedInsert order row = sorted.orderedInsert other row := by
  induction sorted with
  | nil => rfl
  | cons next rest inductionHypothesis =>
    rw [List.orderedInsert_cons, List.orderedInsert_cons,
      inductionHypothesis fun later member => same later (List.mem_cons_of_mem _ member)]
    exact if_congr (same next List.mem_cons_self) rfl rfl

/-- A page depends on the keys of the rows alone. -/
theorem first_congr {otherKey : Row → Key} (same : ∀ row ∈ rows, key row = otherKey row) :
    first key limit rows = first otherKey limit rows := by
  unfold first
  refine congrArg (List.take limit) ?_
  induction rows with
  | nil => rfl
  | cons row rest inductionHypothesis =>
    rw [List.insertionSort_cons, List.insertionSort_cons,
      inductionHypothesis fun later member => same later (List.mem_cons_of_mem _ member)]
    refine orderedInsert_congr fun next member => ?_
    rw [same row List.mem_cons_self,
      same next (List.mem_cons_of_mem _ ((List.mem_insertionSort _).mp member))]

end Page
