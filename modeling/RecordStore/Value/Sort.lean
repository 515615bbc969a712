import RecordStore.Value.Basic

/-!
# Sorting and telling values apart

A stable sort by any comparison that may fail, and the number of different values in a list.

* `Sorting.sort` keeps the run at the front of the list and puts every other element into its place
  by binary search.  A fault is the one of the first comparison that fails, so the order in which
  elements are compared is a part of the sort.
-/

namespace RecordStore

/-- The two directions of a sort. -/
inductive Direction where
  | ascending | descending
  deriving DecidableEq, Repr, Inhabited

namespace Sorting

variable {α : Type}

/-- The elements that go on with the run which ends in `last`, and the others.  In a descending run
every element comes before the one in front of it, in any other run none does. -/
def splitRun (before? : α → α → Outcome Bool) (descending : Bool) (last : α) :
    List α → Outcome (List α × List α)
  | [] => pure ([], [])
  | x :: xs => do
    if (← before? x last) = descending then
      let (run, rest) ← splitRun before? descending x xs
      return (x :: run, rest)
    else return ([], x :: xs)

/-- The run at the front of a list, in ascending order, and the elements behind it. -/
def takeRun (before? : α → α → Outcome Bool) : List α → Outcome (List α × List α)
  | x :: y :: rest => do
    let descending ← before? y x
    let (run, rest) ← splitRun before? descending y rest
    return (if descending then (x :: y :: run).reverse else x :: y :: run, rest)
  | xs => pure (xs, [])

/-- Puts an element into a sorted list, behind those that it does not come before: it is compared
with the element in the middle, then goes into one of the halves. -/
def insert (before? : α → α → Outcome Bool) (x : α) (ys : List α) : Outcome (List α) :=
  if h : ys.length / 2 < ys.length then do
    let middle := ys[ys.length / 2]
    let front := ys.take (ys.length / 2)
    let back := ys.drop (ys.length / 2 + 1)
    if ← before? x middle then return (← insert before? x front) ++ middle :: back
    else return front ++ middle :: (← insert before? x back)
  else pure [x]
termination_by ys.length
decreasing_by all_goals simp only [List.length_take, List.length_drop]; omega

/-- Sorts a list into ascending order; elements that are equal keep their order. -/
def ascending (before? : α → α → Outcome Bool) (xs : List α) : Outcome (List α) := do
  let (run, rest) ← takeRun before? xs
  rest.foldlM (fun sorted x => insert before? x sorted) run

/-- Sorts a list; elements that are equal keep their order in both directions. -/
def sort (before? : α → α → Outcome Bool) (dir : Direction) (xs : List α) : Outcome (List α) :=
  match dir with
  | .ascending => ascending before? xs
  | .descending => do return (← ascending before? xs.reverse).reverse

end Sorting

namespace Value

/-- Sorts values. -/
def sort (dir : Direction) (vs : List Value) : Outcome (List Value) :=
  Sorting.sort before? dir vs

/-- Can things be kept under the value? -/
def isHashable (v : Value) : Bool := v.data.isHashable

/-- Is an equal value of the same kind among these? -/
def isAmong (v : Value) (seen : List Value) : Bool :=
  seen.any fun w => w.kind == v.kind && Datum.holds (w.same? v)

/-- The values that equal no earlier one. -/
def distinct? (vs : List Value) : Outcome (List Value) :=
  vs.foldlM (fun seen v =>
    if v.isHashable then pure (if v.isAmong seen then seen else seen ++ [v])
    else throw .wrongType) []

end Value

end RecordStore
