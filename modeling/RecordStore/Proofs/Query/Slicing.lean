import RecordStore.Proofs.Query.Agreement

/-!
# Every answer is a slice of one list

The records that pass the filter of a query have one arrangement, whatever page is asked for: they
are in the order of the keys, and records that tie on all of the keys keep their order.  Running the
query cuts its page out of this list.

* `Value.IsTagged` is true of every value that is read off plain data, `Value.Ordered` of two that
  can be compared.
* `Query.precedes` and `Query.ties` compare two records by the keys, from left to right.
* `Query.Arranges` is what the list is, `Query.sort?_arranges` that sorting gives it.
* `Query.run?_slices` is the theorem above, with what follows for the pages of one size.
-/

namespace RecordStore

namespace Value

/-- The data of the value are of its kind; a decimal may be one that is no number. -/
def IsTagged (v : Value) : Prop :=
  v.IsProper ∨ v.kind = .decimal ∧ ∃ d, v.data = .decimal d

/-- Comparing the two values gives an answer, whichever comes first. -/
def Ordered (a b : Value) : Prop := (∃ r, a.before? b = .ok r) ∧ ∃ r, b.before? a = .ok r

/-- Does the first value come before the second?  Null comes before every other value. -/
def precedes (a b : Value) : Bool :=
  !b.isNull && (a.isNull || match a.data.before? b.data with
    | .ok (some r) => r
    | _ => false)

/-- Do the values count as equal?  Null equals null alone. -/
def ties (a b : Value) : Bool :=
  if a.isNull || b.isNull then a.isNull && b.isNull else Datum.holds (a.data.same? b.data)

/-- The place of a value among those it can be compared with, null being the first. -/
def place (v : Value) : WithBot Scalar :=
  if v.isNull then ⊥ else ((v.data.scalar?.getD (.boolean false) : Scalar) : WithBot Scalar)

variable {a b : Value}

/-- Every value that is read off plain data is tagged. -/
theorem isTagged_of? {d : Datum} {v : Value} (hd : ∀ k e, d ≠ .tagged k e) (h : of? d = .ok v) :
    v.IsTagged := by
  cases d with
  | tagged k e => exact absurd rfl (hd k e)
  | decimal d =>
    cases h
    exact .inr ⟨rfl, d, rfl⟩
  | binary f =>
    cases h
    exact .inr ⟨rfl, _, rfl⟩
  | date _ | bytes _ | list _ | tuple _ | mapping _ => cases h
  | _ =>
    cases h
    exact .inl rfl

/-- A tagged value stays one when it takes on another kind. -/
theorem IsTagged.coerce? {v v' : Value} {k : Kind} (hv : v.IsTagged) (h : v.coerce? k = .ok v') :
    v'.IsTagged := by
  unfold Value.coerce? at h
  split at h
  · cases h
    exact hv
  · split at h
    · obtain ⟨d, -, h⟩ := Outcome.bind_eq_ok.mp h
      cases h
      exact .inr ⟨rfl, d, rfl⟩
    · cases h

theorem Ordered.symm (h : a.Ordered b) : b.Ordered a := And.symm h

/-- Two values that are not null are compared only where both stand for scalars of one type. -/
theorem Ordered.proper (h : a.Ordered b) (ha : a.IsTagged) (hb : b.IsTagged)
    (hna : a.isNull = false) (hnb : b.isNull = false) :
    a.IsProper ∧ b.IsProper ∧ a.kind = b.kind ∧ a.Comparable b := by
  obtain ⟨⟨r, hr⟩, -⟩ := h
  simp only [before?, hna, hnb, Bool.or_self, Bool.false_eq_true, if_false] at hr
  obtain ⟨_, hkinds, hr⟩ := Outcome.bind_eq_ok.mp hr
  obtain ⟨answer, hanswer, hr⟩ := Outcome.bind_eq_ok.mp hr
  have hk : a.kind = b.kind := by
    by_contra hne
    rw [comparable?, if_neg hne] at hkinds
    cases hkinds
  -- what is no number is never compared
  have hnumbers (d e : Decimal) (hd : a.data = .decimal d) (he : b.data = .decimal e) :
      d.isNan = false ∧ e.isNan = false := by
    rw [hd, he] at hanswer
    cases d <;> cases e <;> first | exact ⟨rfl, rfl⟩ | cases hanswer
  have hproper : a.IsProper ∧ b.IsProper := by
    by_cases hdecimal : a.kind = .decimal
    · have hdata {v : Value} (hv : v.IsTagged) (hkind : v.kind = .decimal) :
          ∃ d, v.data = .decimal d := by
        rcases hv with hv | ⟨-, hv⟩
        · rw [IsProper, hkind] at hv
          cases hd : v.data <;> rw [hd] at hv <;> first | exact ⟨_, rfl⟩ | cases hv
        · exact hv
      obtain ⟨d, hd⟩ := hdata ha hdecimal
      obtain ⟨e, he⟩ := hdata hb (hk ▸ hdecimal)
      obtain ⟨hnd, hne⟩ := hnumbers d e hd he
      rw [IsProper, IsProper, ← hk, hdecimal, hd, he]
      simp [Kind.holds, hnd, hne]
    · exact ⟨ha.resolve_right fun h ↦ hdecimal h.1, hb.resolve_right fun h ↦ hdecimal (hk ▸ h.1)⟩
  refine ⟨hproper.1, hproper.2, hk, comparable_of_kind hproper.1 hproper.2 (.inr (.inr hk)) ?_⟩
  intro t u ht hu
  rw [ht, hu] at hanswer
  have hsome : (t.compare? u).isSome = true := by
    have heq : (t.compare? u).map (· == .lt) = answer := Except.ok.inj hanswer
    cases hc : t.compare? u with
    | some o => rfl
    | none =>
      rw [hc] at heq
      subst heq
      cases hr
  rw [Timestamp.compare?] at hsome
  cases hx : t.offset <;> cases hy : u.offset <;> simp_all

/-- Comparing two values is comparing their places. -/
theorem Ordered.places (h : a.Ordered b) (ha : a.IsTagged) (hb : b.IsTagged) :
    a.before? b = .ok (decide (a.place < b.place)) ∧
      a.precedes b = decide (a.place < b.place) ∧ a.ties b = decide (a.place = b.place) := by
  cases hna : a.isNull with
  | true =>
    cases hnb : b.isNull with
    | true => simp [before?, precedes, ties, place, hna, hnb]
    | false => simp [before?, precedes, ties, place, hna, hnb]
  | false =>
    cases hnb : b.isNull with
    | true => simp [before?, precedes, ties, place, hna, hnb]
    | false =>
      obtain ⟨hpa, hpb, hk, hcomparable⟩ := h.proper ha hb hna hnb
      obtain ⟨s, hs⟩ := hpa.exists_scalar hna
      obtain ⟨t, ht⟩ := hpb.exists_scalar hnb
      have hbefore := data_before?_eq hpa (hk ▸ hpb) hs ht (hcomparable s t hs ht)
      have hsame := data_same?_eq hpa (hk ▸ hpb) hs ht (hcomparable s t hs ht)
      simp [before?, comparable?, precedes, ties, place, hna, hnb, hk, hs, ht, hbefore, hsame,
        Datum.holds]

end Value

namespace OrderKey

/-- Does the first record come before the second by the key?  Descending, it is the other way
round, null included. -/
def precedes (key : OrderKey) (a b : Record) : Bool :=
  match key.direction.direction with
  | .ascending => (a.stored key.field).precedes (b.stored key.field)
  | .descending => (b.stored key.field).precedes (a.stored key.field)

/-- Have the two records equal values under the key? -/
def ties (key : OrderKey) (a b : Record) : Bool := (a.stored key.field).ties (b.stored key.field)

/-- The place of a record by the key. -/
def place (key : OrderKey) (r : Record) : WithBot Scalar := (r.stored key.field).place

/-- Comparing the two records by the key is comparing their places. -/
def Places (key : OrderKey) (a b : Record) : Prop :=
  Query.before? key.field a b = .ok (decide (key.place a < key.place b)) ∧
    key.precedes a b = decide (key.direction.direction.compare (key.place a) (key.place b) = .lt) ∧
    key.ties a b = decide (key.place a = key.place b)

end OrderKey

namespace Query

variable {keys : List OrderKey} {rs : List Record} {q : Query} {rows : List Record}

/-- Does the first record come before the second, by the first of the keys on which the two do not
tie? -/
def precedes : List OrderKey → Record → Record → Bool
  | [], _, _ => false
  | key :: keys, a, b => key.precedes a b || key.ties a b && precedes keys a b

/-- Do the records tie on every key? -/
def ties (keys : List OrderKey) (a b : Record) : Bool := keys.all fun key ↦ key.ties a b

/-- The list has the records in the order of the keys, and those that tie on all of them in the
order in which they were. -/
structure Arranges (keys : List OrderKey) (rs sorted : List Record) : Prop where
  perm : sorted.Perm rs
  ordered : sorted.Pairwise fun a b ↦ precedes keys a b = true ∨ ties keys a b = true
  stable : ∀ r ∈ rs, sorted.filter (ties keys r) = rs.filter (ties keys r)

/-- Values are stored under every key, and those of different records can be compared. -/
structure Orderable (keys : List OrderKey) (rs : List Record) : Prop where
  tagged : ∀ key ∈ keys, ∀ r ∈ rs,
    key.field.isHashable = true ∧ (r.stored key.field).IsTagged
  ordered : ∀ key ∈ keys,
    rs.Pairwise fun a b ↦ (a.stored key.field).Ordered (b.stored key.field)

/-- The records that pass the filter. -/
def matching (q : Query) (rows : List Record) : List Record :=
  match q.condition with
  | none => rows
  | some f => rows.filter fun r ↦ Datum.holds (f.matches? r)

/-- The query for one of the pages of a size. -/
def onPage (q : Query) (size number : Nat) : Query :=
  { q with limit := some size, offset := some (number * size) }

/-- Where the values of two records can be compared, the key compares their places. -/
theorem places_of_ordered {key : OrderKey} {a b : Record}
    (h : (a.stored key.field).Ordered (b.stored key.field))
    (ha : (a.stored key.field).IsTagged) (hb : (b.stored key.field).IsTagged) :
    key.Places a b := by
  obtain ⟨hbefore, hforth, hties⟩ := h.places ha hb
  obtain ⟨-, hback, -⟩ := h.symm.places hb ha
  refine ⟨hbefore, ?_, hties⟩
  rw [OrderKey.precedes]
  cases key.direction.direction with
  | ascending =>
    show (a.stored key.field).precedes (b.stored key.field) = _
    simpa only [Direction.compare, compare_lt_iff_lt, OrderKey.place] using hforth
  | descending =>
    show (b.stored key.field).precedes (a.stored key.field) = _
    simpa only [Direction.compare, compare_lt_iff_lt, OrderKey.place] using hback

theorem Orderable.places {key : OrderKey} (h : Orderable keys rs) (hkey : key ∈ keys) :
    rs.Pairwise fun a b ↦ key.Places a b ∧ key.Places b a := by
  refine (h.ordered key hkey).imp_of_mem fun {a b} ha hb hab ↦ ?_
  have hta := (h.tagged key hkey a ha).2
  have htb := (h.tagged key hkey b hb).2
  exact ⟨places_of_ordered hab hta htb, places_of_ordered hab.symm htb hta⟩

/-- Sorting by one more key, which counts most, arranges records by all of the keys. -/
theorem Arranges.sorted {key : OrderKey} {xs ys : List Record} (h : Arranges keys rs xs)
    (hplaces : rs.Pairwise fun a b ↦ key.Places a b ∧ key.Places b a)
    (hsorted : ys.Pairwise fun a b ↦
      (key.direction.direction.compare (key.place a) (key.place b)).isLE = true)
    (hstable : Sorting.Stable key.place xs ys) : Arranges (key :: keys) rs ys := by
  have hsymm : Std.Symm fun a b ↦ key.Places a b ∧ key.Places b a := ⟨fun _ _ ↦ And.symm⟩
  have hperm := hstable.perm.trans h.perm
  refine ⟨hperm, ?_, ?_⟩
  · have hys := hperm.symm.pairwise hplaces And.symm
    refine ((hsorted.and (hstable.pairwise h.ordered)).and hys).imp fun {a b} hab ↦ ?_
    obtain ⟨⟨hle, htie⟩, ⟨-, hprecedes, hties⟩, -⟩ := hab
    simp only [precedes, ties, List.all_cons, hprecedes, hties, Bool.or_eq_true, Bool.and_eq_true,
      decide_eq_true_eq]
    rcases Ordering.isLE_iff_eq_lt_or_eq_eq.mp hle with hlt | heq
    · exact .inl (.inl hlt)
    · have hplace := Direction.compare_eq_eq.mp heq
      rcases htie hplace with hbefore | hties
      · exact .inl (.inr ⟨hplace, hbefore⟩)
      · exact .inr ⟨hplace, hties⟩
  · intro r hr
    -- records that tie with this one by the key have its place
    have hplace (x : Record) (hx : x ∈ xs) (ht : ties (key :: keys) r x = true) :
        key.place x = key.place r := by
      by_cases heq : r = x
      · rw [heq]
      · obtain ⟨⟨-, -, hties⟩, -⟩ := hplaces.forall hr (h.perm.subset hx) heq
        rw [ties, List.all_cons, hties, Bool.and_eq_true, decide_eq_true_eq] at ht
        exact ht.1.symm
    have hboth (zs : List Record) : zs.filter (ties (key :: keys) r) =
        (zs.filter (ties keys r)).filter (key.ties r) := by
      rw [List.filter_filter]
      rfl
    rw [hstable.filter_eq hplace, hboth, hboth, h.stable r hr]

/-- Sorting by the keys from the last to the first arranges records by all of them. -/
theorem sort?_arranges (h : Orderable keys rs) :
    ∃ ys, sort? keys rs = .ok ys ∧ Arranges keys rs ys := by
  have hranked (key : OrderKey) (hkey : key ∈ keys) :
      Sorting.RankedApart (before? key.field) key.place rs :=
    (h.places hkey).imp fun hab ↦ ⟨hab.1.1, hab.2.1⟩
  have hnone : Arranges [] rs rs :=
    ⟨.refl _, List.pairwise_of_forall fun _ _ ↦ .inr rfl, fun _ _ ↦ rfl⟩
  obtain ⟨ys, hys, -, harranges⟩ := sort?_passes (P := fun keys ys ↦ Arranges keys rs ys)
    (fun key hkey r hr ↦ (h.tagged key hkey r hr).1) hranked hnone
    fun key hkey rest xs ys hxs _ hsorted hstable ↦ hxs.sorted (h.places hkey) hsorted hstable
  exact ⟨ys, hys, harranges⟩

theorem select?_matching (h : ∀ f ∈ q.condition, ∀ r ∈ rows, ∃ b, f.matches? r = .ok b) :
    Filter.select? q.condition rows = .ok (q.matching rows) := by
  rw [matching]
  cases hc : q.condition with
  | none => rfl
  | some f =>
    refine keep?_eq_ok fun r hr ↦ ?_
    obtain ⟨b, hb⟩ := h f hc r hr
    rw [hb]
    rfl

/-- The first pages of one size, one behind the other. -/
theorem flatten_pages {α : Type} (xs : List α) (size count : Nat) :
    ((List.range count).map fun i ↦ (xs.drop (i * size)).take size).flatten =
      xs.take (count * size) := by
  induction count with
  | zero => simp
  | succ count ih =>
    rw [List.range_succ, List.map_append, List.flatten_append, ih, Nat.succ_mul, List.take_add]
    simp

/-- Whatever page a query asks for is cut out of one list: the records that pass its filter, in the
order of its keys and otherwise in their own.  So the pages of one size make up the whole answer. -/
theorem run?_slices (hfilter : ∀ f ∈ q.condition, ∀ r ∈ rows, ∃ b, f.matches? r = .ok b)
    (hkeys : Orderable q.ordering (q.matching rows)) :
    ∃ sorted : List Record, Arranges q.ordering (q.matching rows) sorted ∧
      (∀ limit offset, run? { q with limit := limit, offset := offset } rows =
        .ok ((sorted.drop (offset.getD 0)).take (limit.getD sorted.length))) ∧
      run? { q with limit := none, offset := none } rows = .ok sorted ∧
      ∀ size count, sorted.length ≤ count * size →
        ∃ pages : List (List Record),
          (List.range count).mapM (fun number ↦ (q.onPage size number).run? rows) = .ok pages ∧
          pages.flatten = sorted := by
  obtain ⟨sorted, hsort, harranges⟩ := sort?_arranges hkeys
  have hselect := select?_matching hfilter
  have hrun (limit offset : Option Nat) : run? { q with limit := limit, offset := offset } rows =
      .ok ((sorted.drop (offset.getD 0)).take (limit.getD sorted.length)) := by
    rw [run?]
    by_cases hempty : limit = some 0
    · subst hempty
      simp [isEmptyPage]
    · have hpage : isEmptyPage { q with limit := limit, offset := offset } = false := by
        simpa [isEmptyPage] using hempty
      rw [hpage, if_neg Bool.false_ne_true, hselect, Outcome.ok_bind, hsort, Outcome.ok_bind, page]
      cases limit with
      | none => simp
      | some n => rfl
  refine ⟨sorted, harranges, hrun, ?_, ?_⟩
  · rw [hrun]
    simp
  · intro size count hcount
    refine ⟨(List.range count).map fun number ↦ (sorted.drop (number * size)).take size, ?_, ?_⟩
    · rw [Outcome.mapM_eq_ok, List.forall₂_map_right_iff, List.forall₂_same]
      intro number _
      exact hrun (some size) (some (number * size))
    · rw [flatten_pages, List.take_of_length_le hcount]

/-- Two pages of three have all the people but the one left out, those of one age in their order. -/
theorem run?_slices_people :
    let row (name : String) (age : Value) : Record :=
      ⟨[("name", ⟨.text, .text name⟩), ("age", age)], []⟩
    let aged (n : Int) : Value := ⟨.integer, .integer n⟩
    let q : Query := ⟨some (.compare (.name "name") .notEq (.one ⟨.text, .text "c"⟩)),
      [⟨.name "age", .known .descending⟩, ⟨.name "team", .known .ascending⟩], none, none⟩
    let tied := [row "a" (aged 7), row "b" (aged 7)]
    let rows := [row "d" .null, row "a" (aged 7), row "c" (aged 9), row "b" (aged 7)]
    (∀ f ∈ q.condition, ∀ r ∈ rows, ∃ b, f.matches? r = .ok b) ∧
      Orderable q.ordering (q.matching rows) ∧
      ∃ (sorted : List Record) (pages : List (List Record)), q.run? rows = .ok sorted ∧
        (List.range 2).mapM (fun number ↦ (q.onPage 3 number).run? rows) = .ok pages ∧
        pages.flatten = sorted ∧
        sorted.filter (ties q.ordering (row "a" (aged 7))) = tied := by
  intro row aged q tied rows
  have hfilter : ∀ f ∈ q.condition, ∀ r ∈ rows, ∃ b, f.matches? r = .ok b := by
    intro f hf
    cases hf
    simp only [rows, List.forall_mem_cons]
    exact ⟨⟨_, rfl⟩, ⟨_, rfl⟩, ⟨_, rfl⟩, ⟨_, rfl⟩, nofun⟩
  have hmatching : q.matching rows = [row "d" .null, row "a" (aged 7), row "b" (aged 7)] := rfl
  have hkeys : Orderable q.ordering (q.matching rows) := by
    rw [hmatching]
    constructor
    · simp only [q, List.forall_mem_cons]
      refine ⟨⟨⟨rfl, .inl rfl⟩, ⟨rfl, .inl rfl⟩, ⟨rfl, .inl rfl⟩, nofun⟩,
        ⟨⟨rfl, .inl rfl⟩, ⟨rfl, .inl rfl⟩, ⟨rfl, .inl rfl⟩, nofun⟩, nofun⟩
    · simp only [q, List.forall_mem_cons, List.pairwise_cons]
      have hany {a b : Value} {r s : Bool} (hr : a.before? b = .ok r) (hs : b.before? a = .ok s) :
          a.Ordered b := ⟨⟨r, hr⟩, s, hs⟩
      refine ⟨⟨⟨hany rfl rfl, hany rfl rfl, nofun⟩, ⟨hany rfl rfl, nofun⟩, nofun, .nil⟩,
        ⟨⟨hany rfl rfl, hany rfl rfl, nofun⟩, ⟨hany rfl rfl, nofun⟩, nofun, .nil⟩, nofun⟩
  obtain ⟨sorted, harranges, -, hwhole, hpages⟩ := run?_slices hfilter hkeys
  have hlength : sorted.length = 3 := harranges.perm.length_eq
  obtain ⟨pages, hrun, hflatten⟩ := hpages 3 2 (by omega)
  refine ⟨hfilter, hkeys, sorted, pages, hwhole, hrun, hflatten, ?_⟩
  rw [harranges.stable _ (.tail _ List.mem_cons_self)]
  rfl

end Query

end RecordStore
