import RecordStore.Memory.Store
import RecordStore.Proofs.Outcome

/-!
# Faults of conversion and comparison

Neither converting a record nor passing a filter looks at a key, so what goes wrong there is never
told as a broken constraint.

* `Outcome.Spares` says that a computation reports no broken constraint.
* `Record.spares_conform?` and `Filter.spares_matches?` are the statement above.
-/

namespace RecordStore

/-- Is the fault a broken constraint? -/
def Fault.isConstraint : Fault → Bool
  | constraint .. => true
  | _ => false

namespace Outcome

variable {α β : Type}

/-- The computation reports no broken constraint. -/
def Spares (x : Outcome α) : Prop := ∀ f, x = .error f → f.isConstraint = false

theorem spares_ok (a : α) : Spares (.ok a) := avoids_ok a

theorem spares_error {f : Fault} (h : f.isConstraint = false) : Spares (.error f : Outcome α) :=
  avoids_error h

theorem Spares.bind {x : Outcome α} {k : α → Outcome β} (hx : Spares x)
    (hk : ∀ a, x = .ok a → Spares (k a)) : Spares (x >>= k) :=
  Avoids.bind hx hk

theorem Spares.mapM {f : α → Outcome β} {xs : List α} (h : ∀ x ∈ xs, Spares (f x)) :
    Spares (xs.mapM f) :=
  Avoids.mapM h

theorem Spares.mapError {x : Outcome α} {g : Fault → Fault} (h : Spares x)
    (hg : ∀ f, f.isConstraint = false → (g f).isConstraint = false) : Spares (x.mapError g) := by
  cases x with
  | error f => exact spares_error (hg f (h f rfl))
  | ok a => exact spares_ok a

end Outcome

open Outcome

/-! ## Equality and order -/

namespace Datum

theorem spares_sameNumber? (a b : Decimal) : Spares (sameNumber? a b) := by
  unfold sameNumber?
  split
  · exact spares_error rfl
  · exact spares_ok _

theorem spares_sameScalar? (a b : Datum) : Spares (sameScalar? a b) := by
  unfold sameScalar?
  split <;> try exact spares_ok _
  split
  · exact spares_sameNumber? _ _
  · exact spares_ok _

mutual

theorem spares_same? : (a b : Datum) → Spares (a.same? b)
  | list xs, b => by
    rw [same?.eq_def]
    cases b with
    | list ys =>
      dsimp only
      split
      · exact spares_sameAll? xs ys
      · exact spares_ok _
    | _ => exact spares_ok _
  | tuple xs, b => by
    rw [same?.eq_def]
    cases b with
    | tuple ys => exact spares_sameAll? xs ys
    | _ => exact spares_ok _
  | mapping es, b => by
    rw [same?.eq_def]
    cases b with
    | mapping fs =>
      dsimp only
      split
      · exact spares_sameEntries? es fs
      · exact spares_ok _
    | _ => exact spares_ok _
  | tagged k x, b => by
    rw [same?.eq_def]
    cases b with
    | tagged l y =>
      dsimp only
      split
      · exact spares_ok _
      · split
        · exact spares_same? x y
        · exact spares_error rfl
    | _ => exact spares_ok _
  | null, b => spares_sameScalar? null b
  | boolean _, b => spares_sameScalar? _ b
  | integer _, b => spares_sameScalar? _ b
  | decimal _, b => spares_sameScalar? _ b
  | binary _, b => spares_sameScalar? _ b
  | text _, b => spares_sameScalar? _ b
  | timestamp _, b => spares_sameScalar? _ b
  | date _, b => spares_sameScalar? _ b
  | identifier _, b => spares_sameScalar? _ b
  | bytes _, b => spares_sameScalar? _ b

theorem spares_sameAll? : (xs ys : List Datum) → Spares (sameAll? xs ys)
  | [], [] => spares_ok _
  | [], _ :: _ => spares_ok _
  | _ :: _, [] => spares_ok _
  | x :: xs, y :: ys => by
    rw [sameAll?]
    refine (spares_same? x y).bind fun b _ ↦ ?_
    split
    · exact spares_sameAll? xs ys
    · exact spares_ok _

theorem spares_sameEntries? : (es fs : List (Datum × Datum)) → Spares (sameEntries? es fs)
  | [], _ => spares_ok _
  | (k, v) :: es, fs => by
    rw [sameEntries?]
    split
    · refine (spares_same? v _).bind fun b _ ↦ ?_
      split
      · exact spares_sameEntries? es fs
      · exact spares_ok _
    · exact spares_ok _

end

theorem spares_numberBefore? (a b : Datum) (x y : Decimal) : Spares (numberBefore? a b x y) := by
  unfold numberBefore?
  split
  · exact spares_ok _
  · split
    · exact spares_error rfl
    · exact spares_error rfl
    · exact spares_ok _

theorem spares_scalarBefore? (a b : Datum) : Spares (scalarBefore? a b) := by
  unfold scalarBefore?
  split <;> try exact spares_ok _
  split
  · exact spares_numberBefore? _ _ _ _
  · exact spares_ok _

mutual

theorem spares_before? : (a b : Datum) → Spares (a.before? b)
  | list xs, b => by
    rw [before?.eq_def]
    cases b with
    | list ys => exact spares_listBefore? xs ys
    | _ => exact spares_ok _
  | tuple xs, b => by
    rw [before?.eq_def]
    cases b with
    | tuple ys => exact spares_listBefore? xs ys
    | _ => exact spares_ok _
  | mapping _, _ => spares_ok _
  | tagged k x, b => by
    rw [before?.eq_def]
    cases b with
    | tagged l y =>
      dsimp only
      split
      · exact spares_ok _
      · split
        · refine (spares_before? x y).bind fun answer _ ↦ ?_
          split
          · exact spares_ok _
          · exact spares_error rfl
        · exact spares_error rfl
    | _ => exact spares_ok _
  | null, b => spares_scalarBefore? null b
  | boolean _, b => spares_scalarBefore? _ b
  | integer _, b => spares_scalarBefore? _ b
  | decimal _, b => spares_scalarBefore? _ b
  | binary _, b => spares_scalarBefore? _ b
  | text _, b => spares_scalarBefore? _ b
  | timestamp _, b => spares_scalarBefore? _ b
  | date _, b => spares_scalarBefore? _ b
  | identifier _, b => spares_scalarBefore? _ b
  | bytes _, b => spares_scalarBefore? _ b

theorem spares_listBefore? : (xs ys : List Datum) → Spares (listBefore? xs ys)
  | [], _ => spares_ok _
  | _ :: _, [] => spares_ok _
  | x :: xs, y :: ys => by
    rw [listBefore?]
    refine (spares_same? x y).bind fun b _ ↦ ?_
    split
    · exact spares_listBefore? xs ys
    · exact spares_before? x y

end

/-! ## Numbers that become decimals -/

theorem spares_word? (fault : PartFault) (d : Datum) : Spares (word? fault d) := by
  unfold word?
  split
  · split
    · exact spares_ok _
    · exact spares_error rfl
  · exact spares_error rfl

theorem spares_signPart? (d : Datum) : Spares (signPart? d) := by
  refine (spares_word? _ d).bind fun n _ ↦ ?_
  split
  · exact spares_ok _
  · split
    · exact spares_ok _
    · exact spares_error rfl

theorem spares_digitPart? (d : Datum) : Spares (digitPart? d) := by
  refine (spares_word? _ d).bind fun n _ ↦ ?_
  split
  · exact spares_ok _
  · exact spares_error rfl

theorem spares_digitParts? (d : Datum) : Spares (digitParts? d) := by
  unfold digitParts?
  split
  · exact .mapM fun x _ ↦ spares_digitPart? x
  · exact .mapM fun x _ ↦ spares_digitPart? x
  · exact spares_error rfl

theorem spares_scalePart? (d : Datum) : Spares (scalePart? d) := by
  unfold scalePart?
  split
  · split_ifs
    · exact spares_ok _
    · exact spares_ok _
    · exact spares_ok _
    · exact spares_error rfl
  · exact (spares_word? _ _).bind fun e _ ↦ spares_ok _

theorem spares_ofParts? (ds : List Datum) : Spares (ofParts? ds) := by
  unfold ofParts?
  split
  · refine (spares_signPart? _).bind fun n _ ↦ ?_
    refine (spares_scalePart? _).bind fun s _ ↦ ?_
    refine (spares_digitParts? _).bind fun c _ ↦ ?_
    dsimp only
    split
    · exact spares_ok _
    · exact spares_ok _
    · split
      · exact spares_ok _
      · exact spares_error rfl
  · exact spares_error rfl

theorem spares_toDecimal? (d : Datum) : Spares d.toDecimal? := by
  unfold toDecimal?
  split <;> try exact spares_ok _
  · split
    · exact spares_ok _
    · exact spares_error rfl
  · exact spares_ofParts? _
  · exact spares_ofParts? _
  · exact spares_error rfl

end Datum

namespace Value

theorem spares_coerce? (v : Value) (k : Kind) : Spares (v.coerce? k) := by
  unfold coerce?
  split
  · exact spares_ok _
  · split
    · exact v.data.spares_toDecimal?.bind fun d _ ↦ spares_ok _
    · exact spares_error rfl

theorem spares_comparable? (a b : Value) : Spares (a.comparable? b) := by
  unfold comparable?
  split
  · exact spares_ok _
  · exact spares_error rfl

theorem spares_same? (a b : Value) : Spares (a.same? b) := by
  unfold same?
  split
  · exact spares_ok _
  · exact (a.spares_comparable? b).bind fun _ _ ↦ a.data.spares_same? b.data

theorem spares_before? (a b : Value) : Spares (a.before? b) := by
  unfold before?
  split
  · exact spares_ok _
  · refine (a.spares_comparable? b).bind fun _ _ ↦ ?_
    refine (a.data.spares_before? b.data).bind fun answer _ ↦ ?_
    split
    · exact spares_ok _
    · exact spares_error rfl

theorem spares_differs? (a b : Value) : Spares (a.differs? b) :=
  (a.spares_same? b).bind fun _ _ ↦ spares_ok _

theorem spares_after? (a b : Value) : Spares (a.after? b) := by
  refine (a.spares_before? b).bind fun answer _ ↦ ?_
  split
  · exact spares_ok _
  · exact a.spares_differs? b

theorem spares_atMost? (a b : Value) : Spares (a.atMost? b) := by
  refine (a.spares_before? b).bind fun answer _ ↦ ?_
  split
  · exact spares_ok _
  · exact a.spares_same? b

theorem spares_atLeast? (a b : Value) : Spares (a.atLeast? b) :=
  (a.spares_before? b).bind fun _ _ ↦ spares_ok _

end Value

/-! ## Records -/

namespace Record

theorem spares_conform? (r : Record) (fields : Shape) : Spares (r.conform? fields) := by
  have hvalue (p : String × Value) : Spares (conformValue? fields p) := by
    unfold conformValue?
    split
    · exact (p.2.spares_coerce? _).bind fun v _ ↦ spares_ok _
    · exact spares_ok _
  exact (Spares.mapM fun p _ ↦ hvalue p).bind fun vs _ ↦ spares_ok _

end Record

theorem Store.spares_conform? (s : Store) (table : String) (r : Record) :
    Spares (s.conform? table r) := by
  unfold conform? conformTo?
  split
  · exact spares_ok _
  · refine (r.spares_conform? _).mapError fun f hf ↦ ?_
    unfold mismatch
    split
    · rfl
    · exact hf

/-! ## Filters -/

namespace Filter

theorem spares_isMember? (d : Datum) (xs : List Datum) : Spares (isMember? d xs) := by
  induction xs with
  | nil => exact spares_ok _
  | cons x xs ih =>
    refine (x.spares_same? d).bind fun b _ ↦ ?_
    split
    · exact spares_ok _
    · exact ih

theorem spares_contains? (stored operand : Datum) : Spares (contains? stored operand) := by
  unfold contains?
  split
  · split
    · exact spares_ok _
    · exact spares_error rfl
  · split
    · exact spares_ok _
    · split
      · unfold holdsByte?
        split
        · exact spares_ok _
        · exact spares_error rfl
      · exact spares_error rfl
  · exact spares_isMember? operand _
  · exact spares_isMember? operand _
  · split
    · exact spares_ok _
    · exact spares_error rfl
  · exact spares_error rfl

theorem spares_alternatives? {α : Type} (read? : Datum → Option (List α)) (test : List α → Bool)
    (operand : Datum) : Spares (alternatives? read? test operand) := by
  have hany (ds : List Datum) : Spares (anyReadable? read? test ds) := by
    induction ds with
    | nil => exact spares_ok _
    | cons d ds ih =>
      rw [anyReadable?]
      split
      · split
        · exact spares_ok _
        · exact ih
      · exact spares_error rfl
  unfold alternatives?
  split
  · exact hany _
  · exact hany _

theorem spares_matchText? (field : FieldRef) (op : Operator) (stored operand : Value) :
    Spares (matchText? field op stored operand) := by
  unfold matchText?
  split
  · exact spares_error rfl
  · unfold search?
    split
    · exact spares_contains? _ _
    · split
      · exact spares_alternatives? _ _ _
      · exact spares_alternatives? _ _ _
      · exact spares_error rfl

theorem spares_matchOne? (field : FieldRef) (op : Operator) (stored operand : Value) :
    Spares (matchOne? field op stored operand) := by
  unfold matchOne?
  split
  · split
    · exact spares_ok _
    · split
      · exact spares_ok _
      · exact stored.spares_same? operand
  · split
    · exact spares_ok _
    · split
      · exact spares_ok _
      · exact stored.spares_differs? operand
  · split
    · exact spares_ok _
    · split
      · exact stored.spares_after? operand
      · exact stored.spares_atLeast? operand
      · exact stored.spares_before? operand
      · exact stored.spares_atMost? operand
      · exact spares_matchText? field _ stored operand

theorem spares_matchSet? (stored : Value) (vs : List Value) : Spares (matchSet? stored vs) := by
  induction vs with
  | nil => exact spares_ok _
  | cons v vs ih =>
    refine (stored.spares_same? v).bind fun b _ ↦ ?_
    split
    · exact spares_ok _
    · exact ih

theorem spares_matchStored? (field : FieldRef) (op : Operator) (operand : Operand)
    (stored : Value) : Spares (matchStored? field op operand stored) := by
  unfold matchStored?
  split
  · exact spares_ok _
  · exact spares_matchSet? stored _
  · split
    · exact spares_matchOne? field _ stored _
    · exact spares_error rfl

mutual

theorem spares_matches? (r : Record) : (f : Filter) → Spares (f.matches? r)
  | compare field op o => by
    rw [matches?]
    split
    · exact spares_matchStored? field op o _
    · exact spares_error rfl
  | all fs => by
    rw [matches?]
    exact spares_matchesAll? r fs
  | any fs => by
    rw [matches?]
    exact spares_matchesAny? r fs
  | negation f => by
    rw [matches?]
    exact (spares_matches? r f).bind fun b _ ↦ spares_ok _
  | junk d => spares_error rfl

theorem spares_matchesAll? (r : Record) : (fs : List Filter) → Spares (matchesAll? r fs)
  | [] => spares_ok _
  | f :: fs => by
    rw [matchesAll?]
    refine (spares_matches? r f).bind fun b _ ↦ ?_
    split
    · exact spares_matchesAll? r fs
    · exact spares_ok _

theorem spares_matchesAny? (r : Record) : (fs : List Filter) → Spares (matchesAny? r fs)
  | [] => spares_ok _
  | f :: fs => by
    rw [matchesAny?]
    refine (spares_matches? r f).bind fun b _ ↦ ?_
    split
    · exact spares_ok _
    · exact spares_matchesAny? r fs

end

end Filter

end RecordStore
