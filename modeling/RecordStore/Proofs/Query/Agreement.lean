import RecordStore.Proofs.Filter.Agreement
import RecordStore.Proofs.Query.Order
import RecordStore.Proofs.Sql.Statement

/-!
# Queries and their SQL

The statement of a query gives the rows that the query gives on records.  Where the order of the
query mentions the whole key of the source no two rows tie, and then there is one answer only; in
any other order the answers are the same rows, as long as no page is cut out of them.

* `Source.Suits` says that records are rows of a source.
* `Query.select?_agrees` is the theorem above.
-/

namespace RecordStore

open Sql

/-- The source is a table that is read as it is, with plain names, and its key consists of fields
of it. -/
structure Source.IsTable (s : Source) : Prop where
  read : s.read = none
  table : isPlain s.table.toList = true
  names : ∀ n ∈ s.fields.keys, isPlain n.toList = true
  key : s.key ≠ []
  declared : ∀ n ∈ s.key, n ∈ s.fields.keys

/-- The records have different keys. -/
def Source.Distinguishes (s : Source) (a b : Record) : Prop :=
  ∃ n ∈ s.key, (a.valueOrNull n).rank ≠ (b.valueOrNull n).rank

instance (s : Source) : Std.Symm s.Distinguishes where
  symm := fun _ _ ⟨n, hn, hrank⟩ ↦ ⟨n, hn, hrank.symm⟩

/-- The records are rows of the source: they conform to its shape, a column holds timestamps with
an offset or without one, and no two rows have the same key. -/
structure Source.Suits (s : Source) (rows : List Record) : Prop where
  conforms : ∀ r ∈ rows, r.Conforms s.fields
  offsets : ∀ n ∈ s.fields.keys, ∀ a ∈ rows, ∀ b ∈ rows,
    (a.valueOrNull n).AgreesInOffset (b.valueOrNull n)
  keys : rows.Pairwise s.Distinguishes

/-- Every operand of the filter of a query has proper data, and agrees with the rows in whether
timestamps have an offset. -/
def Query.OperandsSuit (q : Query) (rows : List Record) : Prop :=
  ∀ f ∈ q.condition, ∀ p ∈ f.comparisons,
    p.2.IsProper ∧ ∀ r ∈ rows, (r.stored p.1).AgreesInOffset p.2

/-- The plain values of the named fields. -/
def Record.cells (names : List String) (r : Record) : Row :=
  names.map fun n ↦ (n, (r.valueOrNull n).data)

namespace Query

variable {s : Source} {q₀ q : Query} {rows stored : List Record} {a b r : Record}
  {locale : TextOrder} {n : String} {k : Kind}

/-! ## Valid queries -/

/-- Every key is a field that is declared. -/
def Declared (fields : Shape) (keys : List OrderKey) : Prop :=
  ∀ key ∈ keys, ∃ n k, key.field = .name n ∧ fields.lookup n = some k

theorem declared_of_checkOrder? {fields : Shape} {keys : List OrderKey}
    (h : checkOrder? fields keys = .ok ()) : Declared fields keys := by
  induction keys with
  | nil =>
    intro key hkey
    cases hkey
  | cons key keys ih =>
    obtain ⟨_, hfirst, hrest⟩ := Outcome.bind_eq_ok.mp h
    obtain ⟨k, hk, -⟩ := Outcome.bind_eq_ok.mp hfirst
    intro key' hkey'
    rcases List.mem_cons.mp hkey' with rfl | hkey'
    · obtain ⟨field, dir⟩ := key'
      cases field with
      | name n => exact ⟨n, k, rfl, Filter.declared?_name hk⟩
      | stray d =>
        unfold Filter.declared? at hk
        simp [FieldRef.name?] at hk
    · exact ih hrest key' hkey'

/-- A valid query has declared fields for keys, and a filter that the check has accepted. -/
theorem validate?_eq_ok {fields : Shape} (h : q₀.validate? fields = .ok q) :
    Declared fields q.ordering ∧
      Option.Rel (fun f₀ f ↦ Filter.validate? fields f₀ = .ok f) q₀.condition q.condition := by
  obtain ⟨_, horder, h⟩ := Outcome.bind_eq_ok.mp h
  have hkeys := declared_of_checkOrder? horder
  cases hcondition : q₀.condition with
  | none =>
    rw [hcondition] at h
    cases h
    exact ⟨hkeys, by rw [hcondition]; exact .none⟩
  | some f₀ =>
    rw [hcondition] at h
    obtain ⟨f, hf, h⟩ := Outcome.bind_eq_ok.mp h
    cases h
    exact ⟨hkeys, .some hf⟩

/-! ## Which rows are kept -/

/-- A filter that tells of every record whether it passes keeps those that do. -/
theorem keep?_eq_ok {f : Filter} {pass : Record → Bool}
    (h : ∀ r ∈ rows, f.matches? r = .ok (pass r)) : f.keep? rows = .ok (rows.filter pass) := by
  induction rows with
  | nil => rfl
  | cons r rows ih =>
    rw [Filter.keep?, h r (by simp), ih fun r' hr' ↦ h r' (by simp [hr'])]
    cases hpass : pass r <;> simp [hpass]

/-- One predicate does for all the rows. -/
theorem exists_agrees {fields : Shape} {f₀ f : Filter}
    (hnames : ∀ n ∈ fields.keys, isPlain n.toList = true) (hbuilt : f₀.Built)
    (hvalid : f₀.validate? fields = .ok f) (hconforms : ∀ r ∈ rows, r.Conforms fields)
    (h : ∀ p ∈ f.comparisons, p.2.IsProper ∧ ∀ r ∈ rows, (r.stored p.1).AgreesInOffset p.2) :
    ∃ (p : Predicate) (pass : Record → Bool),
      Predicate.ofFilter? f = .ok p ∧ p.Regular ∧ ∀ r ∈ rows, f.Agrees r p (pass r) := by
  have hwell := hbuilt.wellTyped hvalid
  -- the predicate of the record without fields, since there may be no rows
  have hempty : Record.Conforms {} fields := fun n k _ ↦ Value.fits_null k
  have hsuit : f.OperandsSuit {} := by
    intro p hp
    refine ⟨(h p hp).1, fun t u ht _ ↦ ?_⟩
    cases hfield : p.1 <;> rw [hfield] at ht <;> cases ht
  obtain ⟨p, _, hp⟩ := hwell.agrees hnames hempty hsuit
  have hrows : ∀ r ∈ rows, ∃ b, f.Agrees r p b := by
    intro r hr
    obtain ⟨p', b, hp'⟩ :=
      hwell.agrees hnames (hconforms r hr) fun p hp ↦ ⟨(h p hp).1, (h p hp).2 r hr⟩
    have heq : p' = p := by
      have hboth := hp'.ofFilter?.symm.trans hp.ofFilter?
      cases hboth
      rfl
    subst heq
    exact ⟨b, hp'⟩
  choose! pass hpass using hrows
  exact ⟨p, pass, hp.ofFilter?, hp.regular, hpass⟩

/-- The filter of a query keeps the same records as its predicate keeps rows. -/
theorem exists_keeps {fields : Shape} (hnames : ∀ n ∈ fields.keys, isPlain n.toList = true)
    (hbuilt : ∀ f ∈ q₀.condition, f.Built)
    (hvalid : Option.Rel (fun f₀ f ↦ Filter.validate? fields f₀ = .ok f) q₀.condition q.condition)
    (hconforms : ∀ r ∈ rows, r.Conforms fields) (h : q.OperandsSuit rows) :
    ∃ (p : Option Predicate) (pass : Record → Bool),
      Option.Rel (fun f p ↦ Predicate.ofFilter? f = .ok p ∧ p.Regular) q.condition p ∧
      Filter.select? q.condition rows = .ok (rows.filter pass) ∧
      ∀ sel : Select, sel.condition = p.map Predicate.condition → ∀ locale, ∀ r ∈ rows,
        sel.keeps? locale r.tableRow = some (pass r) := by
  unfold OperandsSuit at h
  generalize q.condition = condition at hvalid h
  generalize q₀.condition = condition₀ at hvalid hbuilt
  cases hvalid with
  | none =>
    refine ⟨none, fun _ ↦ true, .none, ?_, ?_⟩
    · rw [Filter.select?, List.filter_true, Outcome.pure_eq]
    · intro sel hsel locale r _
      rw [Select.keeps?, hsel]
      rfl
  | @some f₀ f hf =>
    obtain ⟨p, pass, hp, hregular, hagrees⟩ :=
      exists_agrees hnames (hbuilt f₀ rfl) hf hconforms (h f rfl)
    refine ⟨some p, pass, .some ⟨hp, hregular⟩, keep?_eq_ok fun r hr ↦ (hagrees r hr).matches?, ?_⟩
    intro sel hsel locale r hr
    have hdefinite : (some (Truth.ofBool (pass r))).map (fun t ↦ decide (t = .yes)) =
        some (pass r) := by
      cases pass r <;> rfl
    rw [Select.keeps?, hsel, ← hdefinite, ← (hagrees r hr).eval? locale]
    rfl

/-! ## In which order -/

theorem fits_of_mem (h : s.Suits rows) (hk : s.fields.lookup n = some k) (hr : r ∈ rows) :
    (r.valueOrNull n).Fits k :=
  h.conforms r hr n k hk

/-- The values of two rows in one column can be compared. -/
theorem comparable_of_mem (h : s.Suits rows) (hk : s.fields.lookup n = some k) (ha : a ∈ rows)
    (hb : b ∈ rows) : (a.valueOrNull n).Comparable (b.valueOrNull n) :=
  Filter.comparable_of_suits (fits_of_mem h hk ha) (fits_of_mem h hk hb).2 (fits_of_mem h hk hb).1
    (h.offsets n (Filter.mem_keys_of_lookup hk) a ha b hb)

theorem sortable_of_declared {keys : List OrderKey} (h : s.Suits rows)
    (hkeys : Declared s.fields keys) : Sortable keys rows := by
  intro key hkey
  obtain ⟨n, k, hfield, hk⟩ := hkeys key hkey
  rw [hfield]
  exact ⟨FieldRef.isHashable_name n,
    fun a ha b hb ↦ ⟨(fits_of_mem h hk ha).1, comparable_of_mem h hk ha hb⟩⟩

/-- Two scalars in a direction are ordered by their ranks; texts are collated. -/
theorem order?_direction {x y : Scalar} {collated : Bool} (hxy : x.sort = y.sort)
    (hc : x.kind = .text → collated = true) (dir : Direction) :
    (match dir with
      | .ascending => order? locale collated x y
      | .descending => order? locale collated y x) =
      some (dir.compare (x : WithBot Scalar) (y : WithBot Scalar)) := by
  have hcoe (x y : Scalar) : Ord.compare (x : WithBot Scalar) y = Ord.compare x y := by
    rcases lt_trichotomy x y with hlt | rfl | hgt
    · rw [compare_lt_iff_lt.mpr hlt, compare_lt_iff_lt.mpr (WithBot.coe_lt_coe.mpr hlt)]
    · rw [compare_eq_iff_eq.mpr rfl, compare_eq_iff_eq.mpr rfl]
    · rw [compare_gt_iff_gt.mpr hgt, compare_gt_iff_gt.mpr (WithBot.coe_lt_coe.mpr hgt)]
  cases dir with
  | ascending => rw [order?_eq hxy hc, Direction.compare, hcoe]
  | descending =>
    rw [order?_eq hxy.symm fun hy ↦ hc ((Scalar.kind_eq_of_sort_eq hxy).trans hy),
      Direction.compare, hcoe]

/-- A sort key orders two rows by the ranks of their values, since nulls come first where the
order ascends and last where it descends. -/
theorem compare?_sortKey (h : s.Suits rows) (hk : s.fields.lookup n = some k) (ha : a ∈ rows)
    (hb : b ∈ rows) (dir : Direction) :
    (sortKey s n dir).compare? locale a.tableRow b.tableRow =
      some (dir.compare (a.valueOrNull n).rank (b.valueOrNull n).rank) := by
  have hfirst : (sortKey s n dir).nullsFirst = decide (dir = .ascending) := rfl
  have hnull : cell? Value.null.data = some none := rfl
  have hbot (x : Scalar) : Ord.compare (⊥ : WithBot Scalar) x = .lt ∧
      Ord.compare (x : WithBot Scalar) ⊥ = .gt :=
    ⟨compare_lt_iff_lt.mpr (WithBot.bot_lt_coe x), compare_gt_iff_gt.mpr (WithBot.bot_lt_coe x)⟩
  have hcells (r : Record) : r.tableRow (sortKey s n dir).column = (r.valueOrNull n).data := rfl
  rw [SortKey.compare?, hcells, hcells]
  rcases (fits_of_mem h hk ha).1.null_or_scalar with hna | ⟨x, hna, hx, hrx⟩
  · rcases (fits_of_mem h hk hb).1.null_or_scalar with hnb | ⟨y, -, hy, hry⟩
    · rw [hna, hnb]
      exact congrArg some (Direction.compare_eq_eq.mpr rfl).symm
    · rw [hna, hry, cell?_of_scalar hy, hfirst]
      cases dir <;> simp [hnull, Direction.compare, hbot]
  · rcases (fits_of_mem h hk hb).1.null_or_scalar with hnb | ⟨y, -, hy, hry⟩
    · rw [hnb, hrx, cell?_of_scalar hx, hfirst]
      cases dir <;> simp [hnull, Direction.compare, hbot]
    · have hsort := comparable_of_mem h hk ha hb x y hx hy
      have hcollated : x.kind = .text → (sortKey s n dir).collated = true := by
        intro htext
        have hkind : k = .text := by
          rw [← htext, ← (fits_of_mem h hk ha).1.kind_eq hx]
          exact ((fits_of_mem h hk ha).2.resolve_left (by simp [hna])).symm
        simp [sortKey, hk, hkind]
      rw [cell?_of_scalar hx, cell?_of_scalar hy, hrx, hry, ← order?_direction hsort hcollated dir]
      rfl

/-- Sort keys order two rows as the keys of a query order their records. -/
theorem compareRows?_eq {keys : List OrderKey} (h : s.Suits rows)
    (hkeys : Declared s.fields keys) (ha : a ∈ rows) (hb : b ∈ rows) :
    compareRows? locale (keys.map fun k ↦ sortKey s k.field.text k.direction.direction)
      a.tableRow b.tableRow = some (compareBy keys a b) := by
  induction keys with
  | nil => rfl
  | cons key keys ih =>
    obtain ⟨n, k, hfield, hk⟩ := hkeys key (by simp)
    have hfirst : (sortKey s n key.direction.direction).compare? locale a.tableRow b.tableRow = _ :=
      compare?_sortKey h hk ha hb key.direction.direction
    have htext : (FieldRef.name n).text = n := rfl
    rw [List.map_cons, compareRows?, hfield, htext, hfirst,
      ih fun key' hkey' ↦ hkeys key' (by simp [hkey']), compareBy, hfield]
    rfl

/-! ## The answers -/

/-- The keys of a query, and behind them those of the source that it leaves out. -/
def withKey (s : Source) (q : Query) : List OrderKey :=
  q.ordering ++ (s.key.filter (!(q.ordering.filterMap (·.field.name?)).contains ·)).map
    fun n ↦ ⟨.name n, .known .ascending⟩

theorem ordering_ofQuery (s : Source) (q : Query) (p : Option Predicate) (lock : Bool) :
    (Plan.ofQuery s q p lock).ordering =
      (withKey s q).map fun k ↦ sortKey s k.field.text k.direction.direction := by
  rw [withKey, List.map_append, List.map_map]
  rfl

theorem declared_withKey (hs : s.IsTable) (hq : Declared s.fields q.ordering) :
    Declared s.fields (withKey s q) := by
  intro key hkey
  rcases List.mem_append.mp hkey with hkey | hkey
  · exact hq key hkey
  · obtain ⟨n, hn, rfl⟩ := List.mem_map.mp hkey
    obtain ⟨⟨n', k⟩, hmem, rfl⟩ := List.mem_map.mp (hs.declared n (List.mem_filter.mp hn).1)
    have hsome : (s.fields.lookup n').isSome = true :=
      List.lookup_isSome_iff.mpr ⟨(n', k), hmem, beq_self_eq_true n'⟩
    obtain ⟨k', hk'⟩ := Option.isSome_iff_exists.mp hsome
    exact ⟨n', k', rfl, hk'⟩

/-- Nothing is left out where the query mentions the whole key. -/
theorem withKey_eq (h : ∀ n ∈ s.key, ∃ key ∈ q.ordering, key.field = .name n) :
    withKey s q = q.ordering := by
  have hnone : s.key.filter (!(q.ordering.filterMap (·.field.name?)).contains ·) = [] := by
    rw [List.filter_eq_nil_iff]
    intro n hn
    obtain ⟨key, hkey, hfield⟩ := h n hn
    have hmem : n ∈ q.ordering.filterMap (·.field.name?) :=
      List.mem_filterMap.mpr ⟨key, hkey, by rw [hfield]; rfl⟩
    simpa using hmem
  rw [withKey, hnone, List.map_nil, List.append_nil]

/-- Rows that tie on the whole key are the same row. -/
theorem eq_of_compareBy_eq {keys : List OrderKey} (h : s.Suits rows)
    (hkeys : ∀ n ∈ s.key, ∃ key ∈ keys, key.field = .name n) (ha : a ∈ rows) (hb : b ∈ rows)
    (heq : compareBy keys a b = .eq) : a = b := by
  by_contra hne
  obtain ⟨n, hn, hrank⟩ := h.keys.forall ha hb hne
  obtain ⟨key, hkey, hfield⟩ := hkeys n hn
  have hrank' := compareBy_eq_eq.mp heq key hkey
  rw [hfield] at hrank'
  exact hrank hrank'

/-- The answers of a statement on rows of records, where it keeps and orders rows as is said of the
records. -/
theorem answers_iff {sel : Select} {pass : Record → Bool} {keys : List OrderKey}
    {answer : List Row} (hstored : stored.Perm rows)
    (hkeeps : ∀ r ∈ rows, sel.keeps? locale r.tableRow = some (pass r))
    (horder : ∀ a ∈ rows, ∀ b ∈ rows,
      compareRows? locale sel.ordering a.tableRow b.tableRow = some (compareBy keys a b)) :
    sel.Answers locale (stored.map Record.tableRow) answer ↔
      ∃ sorted : List Record, sorted.Perm (rows.filter pass) ∧
        (sorted.Pairwise fun a b ↦ (compareBy keys a b).isLE = true) ∧
        answer = (sel.page sorted).map (Record.cells sel.columns) := by
  have hmem {r : Record} (hr : r ∈ stored) : r ∈ rows := hstored.subset hr
  have hfilter : (stored.map Record.tableRow).filter
      (fun row ↦ sel.keeps? locale row = some true) = (stored.filter pass).map Record.tableRow := by
    rw [List.filter_map]
    refine congrArg _ (List.filter_congr fun r hr ↦ ?_)
    simp [hkeeps r (hmem hr)]
  have hpage (sorted : List Record) :
      (sel.page (sorted.map Record.tableRow)).map sel.cells =
        (sel.page sorted).map (Record.cells sel.columns) := by
    unfold Select.page
    cases sel.limit <;> simp [List.map_drop, List.map_take] <;> rfl
  have hpairs {sorted : List Record} (hperm : sorted.Perm (rows.filter pass)) :
      ((sorted.map Record.tableRow).Pairwise fun a b ↦
        ∃ o, compareRows? locale sel.ordering a b = some o ∧ o.isLE = true) ↔
      sorted.Pairwise fun a b ↦ (compareBy keys a b).isLE = true := by
    have hrow {r : Record} (hr : r ∈ sorted) : r ∈ rows :=
      (List.mem_filter.mp (hperm.subset hr)).1
    rw [List.pairwise_map]
    refine List.Pairwise.iff_of_mem fun {a b} ha hb ↦ ?_
    rw [horder a (hrow ha) b (hrow hb)]
    simp
  constructor
  · rintro ⟨sorted, -, hperm, hsorted, rfl⟩
    rw [hfilter] at hperm
    have hmap : ∃ xs : List Record, sorted = xs.map Record.tableRow ∧
        xs.Perm (stored.filter pass) := by
      have hcomp := List.eq_map_comp_perm Record.tableRow
      exact (congrFun (congrFun hcomp sorted) (stored.filter pass)).mpr hperm
    obtain ⟨xs, rfl, hxs⟩ := hmap
    have hxs' := hxs.trans (hstored.filter pass)
    exact ⟨xs, hxs', (hpairs hxs').mp hsorted, hpage xs⟩
  · rintro ⟨sorted, hperm, hsorted, rfl⟩
    refine ⟨sorted.map Record.tableRow, ?_, ?_, (hpairs hperm).mpr hsorted, (hpage sorted).symm⟩
    · intro row hrow
      obtain ⟨r, hr, rfl⟩ := List.mem_map.mp hrow
      rw [hkeeps r (hmem hr)]
      rfl
    · rw [hfilter]
      exact (hperm.trans (hstored.filter pass).symm).map _

/-- Running a query takes the page of the rows that its filter keeps, in the order of its keys. -/
theorem run?_eq_ok {pass : Record → Bool} (hrows : s.Suits rows)
    (hkeys : Declared s.fields q.ordering)
    (hselect : Filter.select? q.condition rows = .ok (rows.filter pass)) :
    ∃ sorted : List Record, q.run? rows = .ok (q.page sorted) ∧ sorted.Perm (rows.filter pass) ∧
      sorted.Pairwise fun a b ↦ (compareBy q.ordering a b).isLE = true := by
  have hsortable : Sortable q.ordering (rows.filter pass) := by
    intro key hkey
    obtain ⟨hhashable, hvalues⟩ := sortable_of_declared hrows hkeys key hkey
    exact ⟨hhashable, fun a ha b hb ↦
      hvalues a (List.mem_filter.mp ha).1 b (List.mem_filter.mp hb).1⟩
  obtain ⟨sorted, hsort, hperm, hsorted⟩ := sort?_eq_ok hsortable
  refine ⟨sorted, ?_, hperm, hsorted⟩
  rw [run?]
  by_cases hempty : q.isEmptyPage = true
  · have hlimit : q.limit = some 0 := by simpa [isEmptyPage] using hempty
    rw [if_pos hempty, page, hlimit]
    rfl
  · rw [if_neg hempty, hselect, Outcome.ok_bind, hsort]
    rfl

/-- An offset of zero may be left out. -/
theorem page_ofQuery (s : Source) (q : Query) (p : Option Predicate) (lock : Bool)
    (rs : List Record) : (Plan.ofQuery s q p lock).select.page rs = q.page rs := by
  have hoffset (o : Option Nat) : (o.filter (· ≠ 0)).getD 0 = o.getD 0 := by
    cases o with
    | none => rfl
    | some n =>
      by_cases hn : n = 0
      · subst hn
        rfl
      · rw [Option.filter_some_pos (by simpa using hn)]
  rw [page, ← hoffset]
  rfl

theorem regular_ofQuery {p : Option Predicate} (hs : s.IsTable)
    (hkeys : Declared s.fields (withKey s q))
    (hp : Option.Rel (fun f p ↦ Predicate.ofFilter? f = .ok p ∧ p.Regular) q.condition p)
    (lock : Bool) : (Plan.ofQuery s q p lock).Regular := by
  obtain ⟨n, hn⟩ := List.exists_mem_of_ne_nil _ hs.key
  refine ⟨List.ne_nil_of_mem (hs.declared n hn), hs.names, hs.table, ?_, ?_⟩
  · generalize q.condition = condition at hp
    rintro p' rfl
    cases hp with
    | some hp => exact hp.2
  · intro key hkey
    rw [ordering_ofQuery] at hkey
    obtain ⟨key', hkey', rfl⟩ := List.mem_map.mp hkey
    obtain ⟨n, k, hfield, hk⟩ := hkeys key' hkey'
    rw [hfield]
    exact ⟨hs.names n (Filter.mem_keys_of_lookup hk), by simp [sortKey]⟩

/-- The statement that is written for a valid query of a table gives, whatever the order in which
the rows are stored, exactly the rows that the query gives on the records, in the same order, if
the order of the query mentions the whole key; if not, and without a page, it gives the same rows
in some order. -/
theorem select?_agrees (hs : s.IsTable) (hbuilt : ∀ f ∈ q₀.condition, f.Built)
    (hvalid : q₀.validate? s.fields = .ok q) (hrows : s.Suits rows) (hq : q.OperandsSuit rows)
    (hstored : stored.Perm rows) (lock : Bool) :
    ∃ b sel out, select? s q lock = .ok b ∧ Select.read? b.text b.parameters = some sel ∧
      sel.table = s.table ∧ q.run? rows = .ok out ∧
      ∀ locale,
        (∃ answer, sel.Answers locale (stored.map Record.tableRow) answer) ∧
        ((∀ n ∈ s.key, ∃ key ∈ q.ordering, key.field = .name n) →
          ∀ answer, sel.Answers locale (stored.map Record.tableRow) answer ↔
            answer = out.map (Record.cells s.fields.keys)) ∧
        (q.limit = none → q.offset = none →
          ∀ answer, sel.Answers locale (stored.map Record.tableRow) answer →
            answer.Perm (out.map (Record.cells s.fields.keys))) := by
  obtain ⟨hkeys, hcondition⟩ := validate?_eq_ok hvalid
  obtain ⟨p, pass, hp, hselect, hkeeps⟩ :=
    exists_keeps hs.names hbuilt hcondition hrows.conforms hq
  obtain ⟨sorted, hrun, hperm, hsorted⟩ := run?_eq_ok hrows hkeys hselect
  have hplain {n : String} {k : Kind} (hk : s.fields.lookup n = some k) :
      isPlain n.toList = true := hs.names n (Filter.mem_keys_of_lookup hk)
  have hall := declared_withKey hs hkeys
  have hregular : (Plan.ofQuery s q p lock).Regular := regular_ofQuery hs hall hp lock
  obtain ⟨b, hb, hread⟩ := hregular.read?_build?
  refine ⟨b, (Plan.ofQuery s q p lock).select, q.page sorted, ?_, hread, rfl, hrun, fun locale ↦ ?_⟩
  · rw [← hb]
    refine select?_eq hs.read hs.table hs.names (fun n hn ↦ hs.names n (hs.declared n hn))
      (fun key hkey ↦ ?_) hp lock
    obtain ⟨n, k, hfield, hk⟩ := hkeys key hkey
    exact ⟨n, hfield, hplain hk⟩
  have horder : ∀ a ∈ rows, ∀ b ∈ rows, compareRows? locale (Plan.ofQuery s q p lock).ordering
      a.tableRow b.tableRow = some (compareBy (withKey s q) a b) := by
    intro a ha b hb
    rw [ordering_ofQuery]
    exact compareRows?_eq hrows hall ha hb
  have hanswers (answer : List Row) :
      (Plan.ofQuery s q p lock).select.Answers locale (stored.map Record.tableRow) answer ↔ _ :=
    answers_iff hstored (hkeeps _ rfl locale) horder
  have hpage := page_ofQuery s q p lock sorted
  refine ⟨?_, fun hkey answer ↦ ?_, fun hlimit hoffset answer h ↦ ?_⟩
  · let keyed : Query := { q with ordering := withKey s q }
    have hkeyed : Filter.select? keyed.condition rows = .ok (rows.filter pass) := hselect
    obtain ⟨sorted', -, hperm', hsorted'⟩ := run?_eq_ok hrows hall hkeyed
    exact ⟨_, (hanswers _).mpr ⟨sorted', hperm', hsorted', rfl⟩⟩
  · rw [withKey_eq hkey] at hanswers
    rw [hanswers, ← hpage]
    constructor
    · rintro ⟨sorted', hperm', hsorted', rfl⟩
      have heq : sorted' = sorted := by
        refine List.Perm.eq_of_pairwise (fun a b ha hb hab hba ↦ ?_) hsorted' hsorted
          (hperm'.trans hperm.symm)
        exact eq_of_compareBy_eq hrows hkey (List.mem_filter.mp (hperm'.subset ha)).1
          (List.mem_filter.mp (hperm.subset hb)).1 (compareBy_antisymm hab hba)
      rw [heq]
      rfl
    · rintro rfl
      exact ⟨sorted, hperm, hsorted, rfl⟩
  · obtain ⟨sorted', hperm', -, rfl⟩ := (hanswers answer).mp h
    have hwhole (xs : List Record) : (Plan.ofQuery s q p lock).select.page xs = xs := by
      rw [Select.page, Plan.select, Plan.ofQuery, hlimit, hoffset]
      rfl
    rw [← hpage, hwhole, hwhole]
    exact (hperm'.trans hperm.symm).map _

/-- The second of the rows by descending age is the same in both readings. -/
theorem select?_agrees_second :
    let s : Source := ⟨"users", [("name", .text), ("age", .integer)], ["name"], none⟩
    let q : Query := ⟨some (.compare (.name "age") .gt (.one ⟨.integer, .integer 3⟩)),
      [⟨.name "age", .known .descending⟩, ⟨.name "name", .known .ascending⟩], some 1, some 1⟩
    let row (n : String) (age : Int) : Record :=
      ⟨[("name", ⟨.text, .text n⟩), ("age", ⟨.integer, .integer age⟩)], []⟩
    ∃ b sel out, select? s q false = .ok b ∧ Select.read? b.text b.parameters = some sel ∧
      q.run? [row "a" 7, row "b" 2, row "c" 7] = .ok out ∧
      ∀ locale answer,
        sel.Answers locale ([row "c" 7, row "b" 2, row "a" 7].map Record.tableRow) answer ↔
          answer = out.map (Record.cells ["name", "age"]) := by
  intro s q row
  have hbuilt : ∀ f ∈ q.condition, f.Built := by
    intro f hf
    cases hf
    exact .comparing (by decide) (by decide)
      (show Filter.comparing? .gt (.text "age") (.integer 3) = .ok _ from rfl)
  have hs : s.IsTable := ⟨rfl, by decide, by decide, by decide, by decide⟩
  have hmem (r : Record) (hr : r ∈ [row "a" 7, row "b" 2, row "c" 7]) : ∃ n age, r = row n age := by
    simp only [List.mem_cons, List.not_mem_nil, or_false] at hr
    rcases hr with rfl | rfl | rfl <;> exact ⟨_, _, rfl⟩
  have hage (n : String) (age : Int) : (row n age).valueOrNull "age" = ⟨.integer, .integer age⟩ :=
    rfl
  have hname (n : String) (age : Int) : (row n age).valueOrNull "name" = ⟨.text, .text n⟩ := rfl
  have hrows : s.Suits [row "a" 7, row "b" 2, row "c" 7] := by
    refine ⟨fun r hr ↦ ?_, fun n hn a ha b _ ↦ ?_, ?_⟩
    · obtain ⟨n, age, rfl⟩ := hmem r hr
      refine Record.conforms_of_forall ?_
      simp [s, hname, hage, Value.Fits, Value.IsProper, Kind.holds]
    · obtain ⟨m, age, rfl⟩ := hmem a ha
      simp only [s, Assoc.keys, List.map_cons, List.map_nil, List.mem_cons, List.not_mem_nil,
        or_false] at hn
      rcases hn with rfl | rfl <;> exact fun t u ht _ ↦ by cases ht
    · have hdistinct {m n : String} {x y : Int} (h : m ≠ n) :
          s.Distinguishes (row m x) (row n y) := by
        refine ⟨"name", by decide, ?_⟩
        rw [hname, hname]
        intro hrank
        have hcodes : Scalar.text (codePoints m) = .text (codePoints n) := Option.some.inj hrank
        exact codePoints_injective.ne h (Scalar.text.inj hcodes)
      simp [hdistinct]
  have hq : q.OperandsSuit [row "a" 7, row "b" 2, row "c" 7] := by
    intro f hf p hp
    cases hf
    simp only [Filter.comparisons, Operand.values, List.map_cons, List.map_nil, List.mem_cons,
      List.not_mem_nil, or_false] at hp
    subst hp
    exact ⟨rfl, fun r hr t u _ hu ↦ by cases hu⟩
  have hstored : [row "c" 7, row "b" 2, row "a" 7].Perm [row "a" 7, row "b" 2, row "c" 7] :=
    List.reverse_perm [row "a" 7, row "b" 2, row "c" 7]
  have hkey : ∀ n ∈ s.key, ∃ key ∈ q.ordering, key.field = .name n := by
    intro n hn
    simp only [s, List.mem_cons, List.not_mem_nil, or_false] at hn
    exact ⟨_, List.mem_cons_of_mem _ List.mem_cons_self, by rw [hn]⟩
  obtain ⟨b, sel, out, hb, hread, -, hout, h⟩ :=
    select?_agrees hs hbuilt rfl hrows hq hstored false
  exact ⟨b, sel, out, hb, hread, hout, fun locale ↦ (h locale).2.1 hkey⟩

end Query

end RecordStore
