import RecordStore.Proofs.Sql.Reading
import RecordStore.Record
import RecordStore.Value.Sort

/-!
# The meaning of SELECT

A statement is read clause by clause.  It takes the rows for which the condition is true, puts them
into an order that the sort keys allow, leaves out the rows before the offset and those behind the
limit, and gives the columns that are asked for.  Rows that tie come in any order, so there may be
several answers.

* `Select.read?` reads a statement from its text with parameters.
* `Select.Answers` tells the answers to a statement on the rows of a table.
-/

namespace RecordStore.Sql

/-- A key by which rows are sorted. -/
structure SortKey where
  column : String
  collated : Bool
  direction : Direction
  nullsFirst : Bool

/-- A statement that reads rows of a table. -/
structure Select where
  columns : List String
  table : String
  condition : Option Condition
  ordering : List SortKey
  limit : Option Nat
  offset : Option Nat
  locking : Bool

/-! ## Reading -/

/-- Does the keyword begin a clause? -/
def Keyword.beginsClause : Keyword → Bool
  | select | from_ | where_ | order | limit | offset | for_ => true
  | _ => false

/-- Does the token begin a clause? -/
def Token.beginsClause : Token → Bool
  | .keyword k => k.beginsClause
  | _ => false

namespace Select

/-- The tokens of the clause that the keyword begins, and those behind it. -/
def clause? (k : Keyword) : List Token → Option (List Token × List Token)
  | .keyword k' :: ts =>
    if k' = k then some (ts.takeWhile (!·.beginsClause), ts.dropWhile (!·.beginsClause)) else none
  | _ => none

/-- The same for a clause that may be left out. -/
def optional (k : Keyword) (ts : List Token) : Option (List Token) × List Token :=
  match clause? k ts with
  | some (body, rest) => (some body, rest)
  | none => (none, ts)

/-- The tokens between commas. -/
def parts : List Token → List (List Token)
  | [] => [[]]
  | .comma :: ts => [] :: parts ts
  | t :: ts => match parts ts with
    | [] => [[t]]
    | p :: ps => (t :: p) :: ps

/-- A name alone. -/
def name? : List Token → Option String
  | [.name n] => some n
  | _ => none

/-- The direction of a keyword. -/
def direction? : Keyword → Option Direction
  | .asc => some .ascending
  | .desc => some .descending
  | _ => none

/-- Does the keyword put nulls in front? -/
def nullsFirst? : Keyword → Option Bool
  | .first => some true
  | .last => some false
  | _ => none

/-- A sort key. -/
def sortKey? : List Token → Option SortKey
  | [.name c, .keyword d, .keyword .nulls, .keyword e] => do
    return ⟨c, false, ← direction? d, ← nullsFirst? e⟩
  | [.name c, .keyword .collate, .name l, .keyword d, .keyword .nulls, .keyword e] =>
    if l = "C" then do return ⟨c, true, ← direction? d, ← nullsFirst? e⟩ else none
  | _ => none

/-- The sort keys behind `ORDER`. -/
def ordering? : Option (List Token) → Option (List SortKey)
  | none => some []
  | some (.keyword .by_ :: ts) => (parts ts).mapM sortKey?
  | some _ => none

/-- A condition, where there is one. -/
def condition? : Option (List Token) → Option (Option Condition)
  | none => some none
  | some ts => (Condition.ofTokens? ts).map some

/-- A number of rows, where there is one. -/
def count? : Option (List Token) → Option (Option Nat)
  | none => some none
  | some [.value (.integer n)] => if 0 ≤ n then some (some n.toNat) else none
  | some _ => none

/-- Are the rows locked? -/
def locking? : Option (List Token) → Option Bool
  | none => some false
  | some [.keyword .update] => some true
  | some _ => none

/-- Reads a statement. -/
def ofTokens? (ts : List Token) : Option Select := do
  let (columns, ts) ← clause? .select ts
  let (table, ts) ← clause? .from_ ts
  let (condition, ts) := optional .where_ ts
  let (ordering, ts) := optional .order ts
  let (limit, ts) := optional .limit ts
  let (offset, ts) := optional .offset ts
  let (locking, ts) := optional .for_ ts
  if ts.isEmpty then
    return ⟨← (parts columns).mapM name?, ← name? table, ← condition? condition,
      ← ordering? ordering, ← count? limit, ← count? offset, ← locking? locking⟩
  else none

/-- The statement of a text, with the parameters in the places for them from left to right. -/
def read? (text : String) (ds : List Datum) : Option Select :=
  ((Token.scan? text).bind (Token.bind? · ds)).bind ofTokens?

end Select

/-! ## Meaning -/

/-- The order of two rows by one key.  The direction does not move the nulls. -/
noncomputable def SortKey.compare? (locale : TextOrder) (k : SortKey) (a b : TableRow) :
    Option Ordering := do
  match ← cell? (a k.column), ← cell? (b k.column) with
  | none, none => return .eq
  | none, some _ => return if k.nullsFirst then .lt else .gt
  | some _, none => return if k.nullsFirst then .gt else .lt
  | some s, some t => match k.direction with
    | .ascending => order? locale k.collated s t
    | .descending => order? locale k.collated t s

/-- The order of two rows by the first of the keys in which they differ. -/
noncomputable def compareRows? (locale : TextOrder) : List SortKey → TableRow → TableRow →
    Option Ordering
  | [], _, _ => some .eq
  | k :: ks, a, b => do return (← k.compare? locale a b).then (← compareRows? locale ks a b)

namespace Select

/-- Is the row one of those that are asked for?  A condition that is not true leaves it out. -/
noncomputable def keeps? (locale : TextOrder) (s : Select) (row : TableRow) : Option Bool :=
  match s.condition with
  | none => some true
  | some c => (c.eval? locale row).map (· = .yes)

/-- The rows from the offset up to the limit. -/
def page {α : Type} (s : Select) (rows : List α) : List α :=
  match s.limit with
  | none => rows.drop (s.offset.getD 0)
  | some n => (rows.drop (s.offset.getD 0)).take n

/-- The columns that are asked for. -/
def cells (s : Select) (row : TableRow) : Row := s.columns.map fun c ↦ (c, row c)

/-- The list of rows is an answer to the statement: every row of the table is either asked for or
not, and those that are stand in an order that the sort keys allow. -/
def Answers (locale : TextOrder) (s : Select) (table : List TableRow) (answer : List Row) : Prop :=
  ∃ sorted : List TableRow,
    (∀ row ∈ table, (s.keeps? locale row).isSome = true) ∧
    sorted.Perm (table.filter fun row ↦ s.keeps? locale row = some true) ∧
    (sorted.Pairwise fun a b ↦
      ∃ o, compareRows? locale s.ordering a b = some o ∧ o.isLE = true) ∧
    answer = (s.page sorted).map s.cells

/-! ## Reading clause by clause -/

/-- The tokens of a clause, where there is one. -/
def clauseTokens (k : Keyword) : Option (List Token) → List Token
  | none => []
  | some body => .keyword k :: body

/-- The tokens begin with one of these keywords, or there are none. -/
def BeginsWith (ks : List Keyword) (ts : List Token) : Prop :=
  ∀ t ∈ ts.head?, ∃ k ∈ ks, t = .keyword k

variable {k : Keyword} {ks : List Keyword} {body rest : List Token}

theorem beginsWith_nil (ks : List Keyword) : BeginsWith ks [] := by
  intro t ht
  cases ht

theorem BeginsWith.clause (h : BeginsWith ks rest) (o : Option (List Token)) :
    BeginsWith (k :: ks) (clauseTokens k o ++ rest) := by
  intro t ht
  cases o with
  | none =>
    obtain ⟨k', hk', rfl⟩ := h t ht
    exact ⟨k', by simp [hk'], rfl⟩
  | some body =>
    cases ht
    exact ⟨k, by simp, rfl⟩

/-- A clause ends where another one begins. -/
theorem clause?_eq (hbody : ∀ t ∈ body, t.beginsClause = false) (h : BeginsWith ks rest)
    (hks : ∀ k ∈ ks, k.beginsClause = true) :
    clause? k (.keyword k :: body ++ rest) = some (body, rest) := by
  have hpos : ∀ t ∈ body, (!t.beginsClause) = true := by simpa using hbody
  have hrest : rest.takeWhile (!·.beginsClause) = [] ∧ rest.dropWhile (!·.beginsClause) = rest := by
    cases rest with
    | nil => exact ⟨rfl, rfl⟩
    | cons t rest =>
      obtain ⟨k', hk', rfl⟩ := h t rfl
      have hclause : (Token.keyword k').beginsClause = true := hks k' hk'
      simp [hclause]
  rw [List.cons_append, clause?, if_pos rfl, List.takeWhile_append_of_pos hpos,
    List.dropWhile_append_of_pos hpos, hrest.1, hrest.2, List.append_nil]

theorem optional_eq {o : Option (List Token)} (hbody : ∀ ts ∈ o, ∀ t ∈ ts, t.beginsClause = false)
    (h : BeginsWith ks rest) (hks : ∀ k ∈ ks, k.beginsClause = true) (hk : k ∉ ks) :
    optional k (clauseTokens k o ++ rest) = (o, rest) := by
  cases o with
  | some body =>
    rw [optional, clauseTokens, clause?_eq (hbody body rfl) h hks]
  | none =>
    have habsent : clause? k rest = none := by
      cases rest with
      | nil => rfl
      | cons t rest =>
        obtain ⟨k', hk', rfl⟩ := h t rfl
        rw [clause?, if_neg]
        rintro rfl
        exact hk hk'
    rw [clauseTokens, List.nil_append, optional, habsent]

/-- What stands between commas is found between them. -/
theorem parts_intercalate {ps : List (List Token)} (hne : ps ≠ [])
    (h : ∀ p ∈ ps, Token.comma ∉ p) : parts ([.comma].intercalate ps) = ps := by
  have hpart {p : List Token} (hp : Token.comma ∉ p) (ts : List Token) (q : List Token)
      (qs : List (List Token)) (hq : parts ts = q :: qs) : parts (p ++ ts) = (p ++ q) :: qs := by
    induction p with
    | nil => exact hq
    | cons t p ih =>
      simp only [List.mem_cons, not_or] at hp
      have hstep : parts (t :: (p ++ ts)) = match parts (p ++ ts) with
          | [] => [[t]]
          | p :: ps => (t :: p) :: ps := by
        cases t <;> first | rfl | exact absurd rfl hp.1
      rw [List.cons_append, hstep, ih hp.2]
      rfl
  induction ps with
  | nil => exact absurd rfl hne
  | cons p ps ih =>
    cases ps with
    | nil =>
      have hlast := hpart (h p (by simp)) [] [] [] rfl
      simpa using hlast
    | cons q ps =>
      have hrest : parts ([.comma] ++ [.comma].intercalate (q :: ps)) = [] :: q :: ps := by
        rw [List.singleton_append, parts, ih (by simp) fun r hr ↦ h r (by simp_all)]
      rw [List.intercalate_cons_cons, List.append_assoc,
        hpart (h p (by simp)) _ _ _ hrest, List.append_nil]

/-- The parts of a statement, each as it is written. -/
structure Written where
  columns : List Token
  table : List Token
  condition : Option (List Token)
  ordering : Option (List Token)
  limit : Option (List Token)
  offset : Option (List Token)
  locking : Option (List Token)

/-- The tokens of the whole statement. -/
def Written.tokens (w : Written) : List Token :=
  .keyword .select :: w.columns ++ (.keyword .from_ :: w.table ++
    (clauseTokens .where_ w.condition ++ (clauseTokens .order w.ordering ++
      (clauseTokens .limit w.limit ++ (clauseTokens .offset w.offset ++
        (clauseTokens .for_ w.locking ++ []))))))

/-- No clause begins inside another one. -/
structure Written.Regular (w : Written) : Prop where
  columns : ∀ t ∈ w.columns, t.beginsClause = false
  table : ∀ t ∈ w.table, t.beginsClause = false
  condition : ∀ ts ∈ w.condition, ∀ t ∈ ts, t.beginsClause = false
  ordering : ∀ ts ∈ w.ordering, ∀ t ∈ ts, t.beginsClause = false
  limit : ∀ ts ∈ w.limit, ∀ t ∈ ts, t.beginsClause = false
  offset : ∀ ts ∈ w.offset, ∀ t ∈ ts, t.beginsClause = false
  locking : ∀ ts ∈ w.locking, ∀ t ∈ ts, t.beginsClause = false

/-- A statement is read from its parts. -/
theorem ofTokens?_tokens {w : Written} (h : w.Regular) :
    ofTokens? w.tokens = do
      return ⟨← (parts w.columns).mapM name?, ← name? w.table, ← condition? w.condition,
        ← ordering? w.ordering, ← count? w.limit, ← count? w.offset, ← locking? w.locking⟩ := by
  have h₅ := (beginsWith_nil []).clause (k := .for_) w.locking
  have h₄ := h₅.clause (k := .offset) w.offset
  have h₃ := h₄.clause (k := .limit) w.limit
  have h₂ := h₃.clause (k := .order) w.ordering
  have h₁ := h₂.clause (k := .where_) w.condition
  have h₀ : BeginsWith [.from_] (.keyword .from_ :: w.table ++
      (clauseTokens .where_ w.condition ++ (clauseTokens .order w.ordering ++
        (clauseTokens .limit w.limit ++ (clauseTokens .offset w.offset ++
          (clauseTokens .for_ w.locking ++ [])))))) := by
    intro t ht
    cases ht
    exact ⟨.from_, by simp, rfl⟩
  rw [ofTokens?, Written.tokens, clause?_eq h.columns h₀ (by decide)]
  simp only [Option.bind_eq_bind, Option.bind_some]
  rw [clause?_eq h.table h₁ (by decide)]
  simp only [Option.bind_some]
  rw [optional_eq h.condition h₂ (by decide) (by decide)]
  simp only
  rw [optional_eq h.ordering h₃ (by decide) (by decide)]
  simp only
  rw [optional_eq h.limit h₄ (by decide) (by decide)]
  simp only
  rw [optional_eq h.offset h₅ (by decide) (by decide)]
  simp only
  rw [optional_eq h.locking (beginsWith_nil []) (by decide) (by decide)]
  rfl

end Select

end RecordStore.Sql
