import RecordStore.Proofs.Outcome
import RecordStore.Sql.Builder

/-!
# What a call stores

A call on a builder succeeds in one way: each kind of call checks its argument and stores what it
comes to, behind what is there already or in its place.

* `Builder.Takes` says what each call makes of a builder, and what has to hold for it.
* `Builder.takes_of_perform?` and `Builder.perform?_of_takes` say that a call succeeds just so.
-/

namespace RecordStore

namespace Sql

namespace Builder

variable {b b' : Builder} {c : Call}

/-! ## The relation -/

/-- The columns that a SELECT is asked for: all of them, one, or several. -/
def selected? (columns : Datum) : Outcome (List String) :=
  match columns with
  | .text s =>
    if Text.strip s.toList = ['*'] then pure ["*"] else [columns].mapM (quote "column")
  | d => match d.elements? with
    | some ds => ds.mapM (quote "column")
    | none => throw .wrongType

/-- No statement of another kind has begun. -/
def Begins (b : Builder) (k : StatementKind) : Prop := b.kind = none ∨ b.kind = some k

/-- What a call that succeeds makes of a builder. -/
inductive Takes (b : Builder) : Call → Builder → Prop
  | select {columns : Datum} {qs : List String} (hk : b.Begins .select)
      (hqs : selected? columns = .ok qs) :
    Takes b (.select columns) { b with kind := some .select, columns := b.columns ++ qs }
  | selectCount (hk : b.Begins .select) :
    Takes b .selectCount
      { b with kind := some .select, columns := b.columns ++ ["COUNT(*) AS \"count\""] }
  | fromTable {table : Datum} {s : String} (hs : quote "table" table = .ok s) :
    Takes b (.fromTable table) { b with source := some s }
  | fromSubquery {sql label : Datum} {s : String} (hs : subquery? sql label = .ok s) :
    Takes b (.fromSubquery sql label) { b with source := some s }
  | condition {s : String} {ps : Datum} {ds : List Datum} (hs : Text.strip s.toList ≠ [])
      (hds : ps.elements? = some ds) (hcount : placeholders s.toList = ds.length) :
    Takes b (.condition (.text s) ps)
      { b with conditions := b.conditions ++ [s]
               conditionParameters := b.conditionParameters ++ ds }
  | orderBy {column direction collate : Datum} {s : String}
      (hs : ordering? column direction collate = .ok s) :
    Takes b (.orderBy column direction collate) { b with orderings := b.orderings ++ [s] }
  | limit (n : Nat) : Takes b (.limit (.integer n)) { b with limit := some n }
  | offset (n : Nat) : Takes b (.offset (.integer n)) { b with offset := some n }
  | forUpdate (hk : b.kind = some .select) : Takes b .forUpdate { b with locking := true }
  | insertInto {table columns : Datum} {s : String} {ds : List Datum} {qs : List String}
      (hk : b.Begins .insert) (hs : quote "insert table" table = .ok s)
      (hds : columns.elements? = some ds) (hqs : ds.mapM (quote "insert column") = .ok qs) :
    Takes b (.insertInto table columns)
      { b with kind := some .insert, table := s, insertColumns := qs }
  | values {ps : Datum} {ds : List Datum} (hk : b.kind = some .insert)
      (hds : ps.elements? = some ds) (hcount : ds.length = b.insertColumns.length) :
    Takes b (.values ps) { b with insertParameters := ds }
  | update {table : Datum} {s : String} (hk : b.Begins .update)
      (hs : quote "update table" table = .ok s) :
    Takes b (.update table) { b with kind := some .update, table := s }
  | set {as : Assoc Datum} {qs : List String} (hk : b.kind = some .update)
      (hqs : (as.keys.map .text).mapM (quote "set column") = .ok qs) :
    Takes b (.set as)
      { b with assignments := b.assignments ++ qs.map (· ++ " = %s")
               assignmentParameters := b.assignmentParameters ++ as.map Prod.snd }
  | deleteFrom {table : Datum} {s : String} (hk : b.Begins .delete)
      (hs : quote "delete table" table = .ok s) :
    Takes b (.deleteFrom table) { b with kind := some .delete, table := s }

/-! ## The parts of a call -/

theorem perform?_eq_ok : b.perform? c = .ok b' ↔ b.call c = (b', none) := by
  rw [perform?]
  split <;> simp_all

theorem effect_eq {o : Outcome Builder} : b.effect o = (b', none) ↔ o = .ok b' := by
  cases o <;> simp [effect]

/-- A call that stores what its argument comes to. -/
theorem effect_bind_eq {α : Type} {o : Outcome α} {u : α → Builder}
    (h : b.effect (o >>= fun a ↦ pure (u a)) = (b', none)) : ∃ a, o = .ok a ∧ b' = u a := by
  obtain ⟨a, ha, h⟩ := Outcome.bind_eq_ok.mp (effect_eq.mp h)
  cases h
  exact ⟨a, ha, rfl⟩

/-- A statement that is begun goes on as one of its kind. -/
theorem starting_eq {k : StatementKind} {rest : Builder → Effect}
    (h : b.starting k rest = (b', none)) :
    b.Begins k ∧ rest { b with kind := some k } = (b', none) := by
  unfold starting start? at h
  obtain ⟨kind⟩ := b
  cases kind with
  | none => exact ⟨.inl rfl, h⟩
  | some k' =>
    simp only at h
    by_cases hk : k' = k
    · subst hk
      exact ⟨.inr rfl, by simpa using h⟩
    · simp [hk] at h

/-- The columns are added in their order, each of which is a name. -/
theorem addColumns_eq {ds : List Datum} (h : b.addColumns ds = (b', none)) :
    ∃ qs, ds.mapM (quote "column") = .ok qs ∧ b' = { b with columns := b.columns ++ qs } := by
  induction ds generalizing b with
  | nil =>
    cases h
    exact ⟨[], rfl, by simp⟩
  | cons d ds ih =>
    rw [addColumns] at h
    split at h
    · rename_i q hq
      obtain ⟨qs, hqs, rfl⟩ := ih h
      exact ⟨q :: qs, by simp [hq, hqs], by simp⟩
    · cases h

/-- The names are added in their order, each with a place for its value. -/
theorem addAssignments_eq {as : Assoc Datum} (h : b.addAssignments as = (b', none)) :
    ∃ qs, (as.keys.map .text).mapM (quote "set column") = .ok qs ∧
      b' = { b with
        assignments := b.assignments ++ qs.map (· ++ " = %s")
        assignmentParameters := b.assignmentParameters ++ as.map Prod.snd } := by
  induction as generalizing b with
  | nil =>
    cases h
    exact ⟨[], rfl, by simp⟩
  | cons p as ih =>
    obtain ⟨n, d⟩ := p
    rw [addAssignments] at h
    split at h
    · rename_i q hq
      obtain ⟨qs, hqs, rfl⟩ := ih h
      exact ⟨q :: qs, Outcome.mapM_eq_ok.mpr (.cons hq (Outcome.mapM_eq_ok.mp hqs)), by simp⟩
    · cases h

theorem sequence?_eq_ok {d : Datum} {ds : List Datum} :
    sequence? d = .ok ds ↔ d.elements? = some ds := by
  unfold sequence?
  cases d.elements? with
  | none => exact iff_of_false nofun nofun
  | some es => simp

theorem count?_eq_ok {fault : BuilderFault} {d : Datum} {n : Nat} :
    count? fault d = .ok n ↔ d = .integer n := by
  constructor
  · intro h
    unfold count? at h
    split at h
    · split at h
      · cases h
      · rename_i m hm
        cases h
        rw [Int.toNat_of_nonneg (Int.not_lt.mp hm)]
    · cases h
  · rintro rfl
    rw [count?, if_neg (by omega)]
    rfl

/-- The columns of a SELECT are added behind those it has. -/
theorem takes_select {columns : Datum} (h : b.call (.select columns) = (b', none)) :
    b.Takes (.select columns) b' := by
  obtain ⟨hk, h⟩ := starting_eq h
  dsimp only at h
  split at h
  · split at h
    · rename_i hall
      cases h
      exact .select hk (if_pos hall)
    · rename_i hall
      obtain ⟨qs, hqs, rfl⟩ := addColumns_eq h
      exact .select hk ((if_neg hall).trans hqs)
  · rename_i htext
    split at h
    · rename_i ds hds
      obtain ⟨qs, hqs, rfl⟩ := addColumns_eq h
      refine .select hk ?_
      rw [selected?, hds]
      · exact hqs
      · exact htext
    · cases h

/-- A condition is added as it is written, with a parameter for each of its places. -/
theorem takes_addCondition? {text ps : Datum} (h : b.addCondition? text ps = .ok b') :
    b.Takes (.condition text ps) b' := by
  unfold addCondition? at h
  split at h
  · dsimp only at h
    split at h
    · cases h
    · rename_i hblank
      obtain ⟨ds, hds, h⟩ := Outcome.bind_eq_ok.mp h
      split at h
      · cases h
      · rename_i hcount
        cases h
        exact .condition (by simpa using hblank) (sequence?_eq_ok.mp hds) (not_not.mp hcount)
  · cases h
  · cases h

/-- An INSERT names its table and its columns. -/
theorem takes_insertInto {table columns : Datum}
    (h : b.call (.insertInto table columns) = (b', none)) :
    b.Takes (.insertInto table columns) b' := by
  obtain ⟨hk, h⟩ := starting_eq h
  dsimp only at h
  split at h
  · cases h
  · rename_i hs
    obtain ⟨ds, hds, h⟩ := Outcome.bind_eq_ok.mp (effect_eq.mp h)
    obtain ⟨qs, hqs, h⟩ := Outcome.bind_eq_ok.mp h
    cases h
    exact .insertInto hk hs (sequence?_eq_ok.mp hds) hqs

/-- The values of an INSERT are one for each column. -/
theorem takes_values {ps : Datum} (h : b.call (.values ps) = (b', none)) :
    b.Takes (.values ps) b' := by
  have h := effect_eq.mp h
  dsimp only at h
  split at h
  · cases h
  · rename_i hk
    obtain ⟨ds, hds, h⟩ := Outcome.bind_eq_ok.mp h
    split at h
    · cases h
    · rename_i hcount
      cases h
      exact .values (not_not.mp hk) (sequence?_eq_ok.mp hds) (not_not.mp hcount)

/-! ## Calls that have succeeded -/

/-- A call that succeeds makes of a builder what the relation says. -/
theorem takes_of_perform? (h : b.perform? c = .ok b') : b.Takes c b' := by
  rw [perform?_eq_ok] at h
  cases c with
  | select columns => exact takes_select h
  | selectCount =>
    obtain ⟨hk, h⟩ := starting_eq h
    cases h
    exact .selectCount hk
  | fromTable table =>
    obtain ⟨s, hs, rfl⟩ := effect_bind_eq h
    exact .fromTable hs
  | fromSubquery sql label =>
    obtain ⟨s, hs, rfl⟩ := effect_bind_eq h
    exact .fromSubquery hs
  | condition text ps => exact takes_addCondition? (effect_eq.mp h)
  | orderBy column direction collate =>
    obtain ⟨s, hs, rfl⟩ := effect_bind_eq h
    exact .orderBy hs
  | limit d =>
    obtain ⟨n, hn, rfl⟩ := effect_bind_eq h
    cases count?_eq_ok.mp hn
    exact .limit n
  | offset d =>
    obtain ⟨n, hn, rfl⟩ := effect_bind_eq h
    cases count?_eq_ok.mp hn
    exact .offset n
  | forUpdate =>
    rw [call] at h
    split at h
    · rename_i hk
      cases h
      exact .forUpdate hk
    · cases h
  | insertInto table columns => exact takes_insertInto h
  | values ps => exact takes_values h
  | update table =>
    obtain ⟨hk, h⟩ := starting_eq h
    obtain ⟨s, hs, rfl⟩ := effect_bind_eq h
    exact .update hk hs
  | set as =>
    rw [call] at h
    split at h
    · rename_i hk
      obtain ⟨qs, hqs, rfl⟩ := addAssignments_eq h
      exact .set hk hqs
    · cases h
  | deleteFrom table =>
    obtain ⟨hk, h⟩ := starting_eq h
    obtain ⟨s, hs, rfl⟩ := effect_bind_eq h
    exact .deleteFrom hk hs

/-! ## Calls that may be made -/

theorem starting_of_begins {k : StatementKind} {rest : Builder → Effect} (hk : b.Begins k) :
    b.starting k rest = rest { b with kind := some k } := by
  unfold starting start?
  obtain ⟨kind⟩ := b
  obtain rfl | rfl := hk
  · rfl
  · simp

theorem addColumns_of_mapM {ds : List Datum} {qs : List String}
    (h : ds.mapM (quote "column") = .ok qs) :
    b.addColumns ds = ({ b with columns := b.columns ++ qs }, none) := by
  rw [Outcome.mapM_eq_ok] at h
  induction h generalizing b with
  | nil => simp [addColumns]
  | cons hq _ ih => simp [addColumns, hq, ih]

theorem addAssignments_of_mapM {as : Assoc Datum} {qs : List String}
    (h : (as.keys.map .text).mapM (quote "set column") = .ok qs) :
    b.addAssignments as =
      ({ b with
        assignments := b.assignments ++ qs.map (· ++ " = %s")
        assignmentParameters := b.assignmentParameters ++ as.map Prod.snd }, none) := by
  rw [Outcome.mapM_eq_ok, Assoc.keys, List.forall₂_map_left_iff, List.forall₂_map_left_iff] at h
  induction h generalizing b with
  | nil => simp [addAssignments]
  | cons hq _ ih => simp [addAssignments, hq, ih]

theorem call_select_of_selected? {columns : Datum} {qs : List String} (hk : b.Begins .select)
    (hqs : selected? columns = .ok qs) : b.call (.select columns) =
      ({ b with kind := some .select, columns := b.columns ++ qs }, none) := by
  rw [call, starting_of_begins hk]
  dsimp only
  split
  · split
    · rename_i hall
      rw [selected?, if_pos hall] at hqs
      cases hqs
      rfl
    · rename_i hall
      rw [selected?, if_neg hall] at hqs
      rw [addColumns_of_mapM hqs]
  · rename_i htext
    split
    · rename_i ds hds
      rw [selected?, hds] at hqs
      · rw [addColumns_of_mapM hqs]
      · exact htext
    · rename_i hnone
      rw [selected?, hnone] at hqs
      · cases hqs
      · exact htext

/-- Where a call may be made, it succeeds. -/
theorem perform?_of_takes (h : b.Takes c b') : b.perform? c = .ok b' := by
  rw [perform?_eq_ok]
  cases h with
  | select hk hqs => exact call_select_of_selected? hk hqs
  | selectCount hk => rw [call, starting_of_begins hk]
  | fromTable hs =>
    rw [call, hs]
    rfl
  | fromSubquery hs =>
    rw [call, hs]
    rfl
  | condition hs hds hcount =>
    rw [call, addCondition?, effect_eq]
    simp [hs, sequence?_eq_ok.mpr hds, hcount]
  | orderBy hs =>
    rw [call, hs]
    rfl
  | limit n =>
    rw [call, count?_eq_ok.mpr rfl]
    rfl
  | offset n =>
    rw [call, count?_eq_ok.mpr rfl]
    rfl
  | forUpdate hk => rw [call, if_pos hk]
  | insertInto hk hs hds hqs =>
    rw [call, starting_of_begins hk]
    simp [hs, sequence?_eq_ok.mpr hds, hqs, effect_eq]
  | values hk hds hcount =>
    simp [call, effect_eq, hk, sequence?_eq_ok.mpr hds, hcount]
  | update hk hs =>
    rw [call, starting_of_begins hk, hs]
    rfl
  | set hk hqs => rw [call, if_pos hk, addAssignments_of_mapM hqs]
  | deleteFrom hk hs =>
    rw [call, starting_of_begins hk, hs]
    rfl

end Builder

end Sql

end RecordStore
