import RecordStore.Proofs.Sql.Condition
import RecordStore.Proofs.Sql.Token

/-!
# Reading SQL conditions

A condition is read from its tokens by operator precedence.  `IS`, `LIKE` and the comparisons take
a column and a parameter, so that they bind most tightly; then come `NOT`, `AND` and `OR`.  What
waits for its right-hand side is kept on a stack, and it is put together as soon as an operator
follows that does not bind more tightly.

* `Condition.ofTokens?` reads tokens, `Condition.read?` text with its parameters.
* `Item.Completes` says that some items come to a condition wherever one is expected.
-/

namespace RecordStore.Sql

/-- A test of a column, or what stands between tests. -/
inductive Item where
  | atom (c : Condition)
  | not
  | and
  | or
  | opening
  | closing

namespace Item

/-- The tests among the tokens, each as one item. -/
def ofTokens? : List Token → Option (List Item)
  | [] => some []
  | .keyword .true_ :: ts => (ofTokens? ts).map (atom (.constant true) :: ·)
  | .keyword .false_ :: ts => (ofTokens? ts).map (atom (.constant false) :: ·)
  | .keyword .not :: ts => (ofTokens? ts).map (not :: ·)
  | .keyword .and :: ts => (ofTokens? ts).map (and :: ·)
  | .keyword .or :: ts => (ofTokens? ts).map (or :: ·)
  | .opening :: ts => (ofTokens? ts).map (opening :: ·)
  | .closing :: ts => (ofTokens? ts).map (closing :: ·)
  | .name c :: .keyword .is :: .keyword .null :: ts => (ofTokens? ts).map (atom (.isNull c) :: ·)
  | .name c :: .keyword .is :: .keyword .not :: .keyword .null :: ts =>
    (ofTokens? ts).map (atom (.isNotNull c) :: ·)
  | .name c :: .keyword .like :: .value d :: ts => (ofTokens? ts).map (atom (.like c d) :: ·)
  | .name c :: .sign op :: .value d :: ts =>
    (ofTokens? ts).map (atom (.compare c false op d) :: ·)
  | .name c :: .keyword .collate :: .name l :: .sign op :: .value d :: ts =>
    if l = "C" then (ofTokens? ts).map (atom (.compare c true op d) :: ·) else none
  | .name c :: .sign .eq :: .keyword .any :: .opening :: .value d :: .closing :: ts =>
    (ofTokens? ts).map (atom (.equalsAny c d) :: ·)
  | _ => none

/-- What waits for the condition on its right. -/
inductive Pending where
  | not
  | and (left : Condition)
  | or (left : Condition)
  /-- An opening parenthesis. -/
  | group

/-- How tightly what waits binds; a parenthesis is never crossed. -/
def Pending.tightness : Pending → Nat
  | not => 3
  | and _ => 2
  | or _ => 1
  | group => 0

/-- Puts a condition together with everything that waits for it and binds as tightly at least. -/
def collapse (level : Nat) (c : Condition) : List Pending → Condition × List Pending
  | [] => (c, [])
  | p :: stack =>
    if p.tightness < level then (c, p :: stack)
    else match p with
      | .not => collapse level (.not c) stack
      | .and a => collapse level (.and a c) stack
      | .or a => collapse level (.or a c) stack
      | .group => (c, p :: stack)

/-- What has been read: a condition that may be complete, or the place where one is expected. -/
inductive State where
  | expecting (stack : List Pending)
  | having (c : Condition) (stack : List Pending)

/-- Takes up one item. -/
def step? : State → Item → Option State
  | .expecting stack, atom c => some (.having c stack)
  | .expecting stack, not => some (.expecting (.not :: stack))
  | .expecting stack, opening => some (.expecting (.group :: stack))
  | .having c stack, and =>
    let (a, stack) := collapse 2 c stack
    some (.expecting (.and a :: stack))
  | .having c stack, or =>
    let (a, stack) := collapse 1 c stack
    some (.expecting (.or a :: stack))
  | .having c stack, closing =>
    match collapse 1 c stack with
    | (c, .group :: stack) => some (.having c stack)
    | _ => none
  | _, _ => none

/-- The condition once every item has been read. -/
def run? : State → List Item → Option Condition
  | .having c stack, [] => match collapse 1 c stack with
    | (c, []) => some c
    | _ => none
  | .expecting _, [] => none
  | s, i :: is => (step? s i).bind (run? · is)

/-- Wherever a condition is expected, the items come to this one. -/
def Completes (is : List Item) (c : Condition) : Prop :=
  ∀ stack rest, run? (.expecting stack) (is ++ rest) = run? (.having c stack) rest

theorem Completes.run? {is : List Item} {c : Condition} (h : Completes is c) :
    run? (.expecting []) is = some c := by
  simpa [Item.run?, collapse] using h [] []

theorem completes_atom (c : Condition) : Completes [atom c] c := fun _ _ ↦ rfl

theorem run?_cons (s : State) (i : Item) (is : List Item) :
    Item.run? s (i :: is) = (step? s i).bind (Item.run? · is) := by
  cases s <;> rfl

/-- `NOT` applies to what follows it, up to the parenthesis. -/
theorem completes_not {is : List Item} {c : Condition} (h : Completes is c) :
    Completes (opening :: not :: is ++ [closing]) (.not c) := by
  intro stack rest
  have hinner : Item.run? (.expecting stack) (opening :: not :: (is ++ closing :: rest)) =
      Item.run? (.having c (.not :: .group :: stack)) (closing :: rest) :=
    h (.not :: .group :: stack) (closing :: rest)
  have houter : Item.run? (.having c (.not :: .group :: stack)) (closing :: rest) =
      Item.run? (.having (.not c) stack) rest := rfl
  rw [← houter, ← hinner]
  simp

/-- Conditions with an operator before each. -/
def chain (op : Item) : List (List Item) → List Item
  | [] => []
  | is :: rest => op :: is ++ chain op rest

section

variable {o : Item} {w : Condition → Pending} {j : Condition → Condition → Condition}

/-- A chain of one operator behind a condition in parentheses is put together from left to
right. -/
theorem run?_chain
    (hstart : ∀ a stack, step? (.having a (.group :: stack)) o =
      some (.expecting (w a :: .group :: stack)))
    (hop : ∀ a c stack, step? (.having c (w a :: stack)) o =
      step? (.having (j a c) stack) o)
    (hclosing : ∀ a c stack, step? (.having c (w a :: stack)) closing =
      step? (.having (j a c) stack) closing)
    {parts : List (List Item × Condition)} (h : ∀ p ∈ parts, Completes p.1 p.2) (a : Condition)
    (stack : List Pending) (rest : List Item) :
    Item.run? (.having a (.group :: stack)) (chain o (parts.map Prod.fst) ++ closing :: rest) =
      Item.run? (.having (parts.foldl (fun a p ↦ j a p.2) a) stack) rest := by
  induction parts generalizing a with
  | nil => rfl
  | cons p parts ih =>
    have hp := h p (by simp)
    -- what comes next, be it the operator or the parenthesis, puts the two together
    have hjoin : Item.run? (.having p.2 (w a :: .group :: stack))
        (chain o (parts.map Prod.fst) ++ closing :: rest) =
        Item.run? (.having (j a p.2) (.group :: stack))
          (chain o (parts.map Prod.fst) ++ closing :: rest) := by
      cases parts with
      | nil => simp only [List.map_nil, chain, List.nil_append, run?_cons, hclosing]
      | cons q parts => simp only [List.map_cons, chain, List.cons_append, run?_cons, hop]
    simp only [List.map_cons, chain, List.cons_append, List.append_assoc, List.foldl_cons]
    rw [run?_cons, hstart, Option.bind_some, hp, hjoin]
    exact ih (fun q hq ↦ h q (by simp [hq])) (j a p.2)

end

/-- Conditions with `AND` between them, in parentheses. -/
theorem completes_and {is : List Item} {c : Condition} {parts : List (List Item × Condition)}
    (hc : Completes is c) (h : ∀ p ∈ parts, Completes p.1 p.2) :
    Completes (opening :: is ++ chain and (parts.map Prod.fst) ++ [closing])
      (parts.foldl (fun a p ↦ .and a p.2) c) := by
  intro stack rest
  have hfirst := hc (.group :: stack) (chain and (parts.map Prod.fst) ++ closing :: rest)
  have hrest := run?_chain (o := and) (w := .and) (j := .and) (fun _ _ ↦ rfl)
    (fun _ _ _ ↦ rfl) (fun _ _ _ ↦ rfl) h c stack rest
  rw [← hrest, ← hfirst]
  simp [run?_cons, step?]

/-- A condition in parentheses. -/
theorem completes_group {is : List Item} {c : Condition} (h : Completes is c) :
    Completes (opening :: is ++ [closing]) c := by
  have hnone : ∀ p ∈ ([] : List (List Item × Condition)), Completes p.1 p.2 := by simp
  have hand := completes_and h hnone
  simpa [chain] using hand

/-- Conditions with `OR` between them, in parentheses. -/
theorem completes_or {is : List Item} {c : Condition} {parts : List (List Item × Condition)}
    (hc : Completes is c) (h : ∀ p ∈ parts, Completes p.1 p.2) :
    Completes (opening :: is ++ chain or (parts.map Prod.fst) ++ [closing])
      (parts.foldl (fun a p ↦ .or a p.2) c) := by
  intro stack rest
  have hfirst := hc (.group :: stack) (chain or (parts.map Prod.fst) ++ closing :: rest)
  have hrest := run?_chain (o := or) (w := .or) (j := .or) (fun _ _ ↦ rfl)
    (fun _ _ _ ↦ rfl) (fun _ _ _ ↦ rfl) h c stack rest
  rw [← hrest, ← hfirst]
  simp [run?_cons, step?]

end Item

namespace Condition

/-- The condition that tokens stand for. -/
def ofTokens? (ts : List Token) : Option Condition :=
  (Item.ofTokens? ts).bind (Item.run? (.expecting []))

/-- The condition of a text, with the parameters in the places for them from left to right. -/
def read? (text : String) (ds : List Datum) : Option Condition :=
  ((Token.scan? text).bind (Token.bind? · ds)).bind ofTokens?

end Condition

end RecordStore.Sql
