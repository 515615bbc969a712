import Mathlib.Data.List.TakeWhile
import RecordStore.Proofs.Sql.Calls
import RecordStore.Proofs.Sql.Placeholders
import RecordStore.Proofs.Sql.Select
import RecordStore.Sql.Statement

/-!
# What the statement of a query says

The statement that reads the rows of a query has one clause for each part of the query: the
columns, the table, the condition, the keys of the query and then those of the source, the limit,
the offset unless it is zero, and the lock.

* `select?_eq` is the text of the statement, with its parameters.
* `Select.read?_written` is the statement that this text is read as.
-/

namespace RecordStore.Sql

/-! ## Conditions that may be added -/

namespace Predicate

/-- The text of a regular predicate does not begin with a blank. -/
theorem Regular.exists_cons {p : Predicate} (h : Regular p) :
    ∃ c cs, p.text.toList = c :: cs ∧ Text.isBlank c = false := by
  cases h
  case always => exact ⟨'T', _, rfl, by decide⟩
  case never => exact ⟨'F', _, rfl, by decide⟩
  case isNull => exact ⟨'"', _, by simp [text, inQuotes]; rfl, by decide⟩
  case isNotNull => exact ⟨'"', _, by simp [text, inQuotes]; rfl, by decide⟩
  case compare => exact ⟨'"', _, by simp [text, inQuotes]; rfl, by decide⟩
  case like => exact ⟨'"', _, by simp [text, inQuotes]; rfl, by decide⟩
  case equalsAny => exact ⟨'"', _, by simp [text, inQuotes]; rfl, by decide⟩
  case conj => exact ⟨'(', _, by simp [text]; rfl, by decide⟩
  case disj => exact ⟨'(', _, by simp [text]; rfl, by decide⟩
  case negation => exact ⟨'(', _, by simp [text]; rfl, by decide⟩

end Predicate

/-! ## Calls -/

namespace Builder

variable {b : Builder} {names : List String}

/-- Plain names are all quoted. -/
theorem mapM_quote_plain (context : String) (h : ∀ n ∈ names, isPlain n.toList = true) :
    (names.map Datum.text).mapM (quote context) = .ok (names.map quotedName) := by
  rw [Outcome.mapM_eq_ok, List.forall₂_map_left_iff, List.forall₂_map_right_iff, List.forall₂_same]
  exact fun n hn ↦ quote_plain _ (h n hn)

theorem perform?_select (h : ∀ n ∈ names, isPlain n.toList = true) :
    perform? {} (.select (nameList names)) =
      .ok { kind := some .select, columns := names.map quotedName } :=
  perform?_of_takes (.select (.inl rfl) (mapM_quote_plain _ h))

theorem perform?_fromTable {t : String} (h : isPlain t.toList = true) :
    b.perform? (.fromTable (.text t)) = .ok { b with source := some (quotedName t) } :=
  perform?_of_takes (.fromTable (quote_plain _ h))

theorem performAll?_append (cs ds : List Call) :
    b.performAll? (cs ++ ds) = b.performAll? cs >>= (performAll? · ds) := List.foldlM_append

/-- The condition of a regular predicate is added with its parameters. -/
theorem perform?_condition {p : Predicate} (h : p.Regular) :
    b.perform? (.condition (.text p.text) (.list p.parameters)) =
      .ok { b with conditions := b.conditions ++ [p.text]
                   conditionParameters := b.conditionParameters ++ p.parameters } := by
  obtain ⟨c, cs, htext, hc⟩ := h.exists_cons
  have hstrip : Text.strip p.text.toList ≠ [] := by
    rw [Text.strip, htext, List.dropWhile_cons_of_neg (by simp [hc]), Ne, List.reverse_eq_nil_iff,
      List.dropWhile_eq_nil_iff]
    intro hall
    rw [hall c (by simp)] at hc
    cases hc
  exact perform?_of_takes (.condition hstrip rfl (p.fills h.bare).whole.1)

end Builder

/-- What is written for a sort key. -/
def SortKey.text (k : SortKey) : String :=
  quotedName k.column ++ (if k.collated then " COLLATE \"C\"" else "") ++
    match k.direction with
    | .ascending => " ASC NULLS FIRST"
    | .descending => " DESC NULLS LAST"

/-- The sort key of a field of a source. -/
def sortKey (s : Source) (n : String) (dir : Direction) : SortKey :=
  ⟨n, s.fields.lookup n == some .text, dir, dir = .ascending⟩

/-- The parts from which a statement is written. -/
structure Plan where
  columns : List String
  table : String
  predicate : Option Predicate
  ordering : List SortKey
  limit : Option Nat
  offset : Option Nat
  locking : Bool

namespace Plan

/-- The builder that has collected the parts. -/
def builder (w : Plan) : Builder where
  kind := some .select
  columns := w.columns.map quotedName
  source := some (quotedName w.table)
  conditions := w.predicate.toList.map Predicate.text
  conditionParameters := w.predicate.toList.flatMap Predicate.parameters
  orderings := w.ordering.map SortKey.text
  limit := w.limit
  offset := w.offset
  locking := w.locking

/-- The statement that has these parts. -/
def select (w : Plan) : Select :=
  ⟨w.columns, w.table, w.predicate.map Predicate.condition, w.ordering, w.limit, w.offset,
    w.locking⟩

/-- The parts of the statement of a query: the keys of the source follow those of the query. -/
def ofQuery (s : Source) (q : Query) (p : Option Predicate) (lock : Bool) : Plan where
  columns := s.fields.keys
  table := s.table
  predicate := p
  ordering := (q.ordering.map fun k ↦ sortKey s k.field.text k.direction.direction) ++
    (s.key.filter (!(q.ordering.filterMap (·.field.name?)).contains ·)).map
      (sortKey s · .ascending)
  limit := q.limit
  offset := q.offset.filter (· ≠ 0)
  locking := lock

end Plan

variable {s : Source} {q : Query} {w : Plan}

theorem perform?_orderCall {n : String} (h : isPlain n.toList = true) (dir : Direction) :
    w.builder.perform? (orderCall s (.name n) dir) =
      .ok { w with ordering := w.ordering ++ [sortKey s n dir] }.builder := by
  have htext : Builder.ordering? (.text n) (.text (if dir = .descending then "DESC" else "ASC"))
      (.boolean (s.fields.lookup n == some .text)) = .ok (sortKey s n dir).text := by
    have hup : Text.upper "DESC" = "DESC" ∧ Text.upper "ASC" = "ASC" := by decide
    rw [Builder.ordering?, quote_plain _ h]
    cases dir with
    | ascending => simp [hup, SortKey.text, sortKey, Datum.isTruthy]
    | descending => simp [hup, SortKey.text, sortKey, Datum.isTruthy]
  refine (Builder.perform?_of_takes (.orderBy htext)).trans ?_
  simp [Plan.builder]

/-- The keys of a query are added in their order. -/
theorem orderedBy?_eq {keys : List OrderKey}
    (h : ∀ key ∈ keys, ∃ n, key.field = .name n ∧ isPlain n.toList = true) :
    orderedBy? s w.builder keys =
      .ok { w with ordering := w.ordering ++
              keys.map fun k : OrderKey ↦
                sortKey s k.field.text k.direction.direction }.builder := by
  induction keys generalizing w with
  | nil => simp [orderedBy?]
  | cons key keys ih =>
    obtain ⟨n, hfield, hn⟩ := h key (by simp)
    rw [orderedBy?, hfield, perform?_orderCall hn, FieldRef.isHashable_name]
    simp only [Bool.not_true, Bool.false_eq_true, if_false, Outcome.ok_bind]
    rw [ih fun k hk ↦ h k (by simp [hk])]
    simp [hfield]

theorem performAll?_orderCalls {names : List String}
    (h : ∀ n ∈ names, isPlain n.toList = true) (dir : Direction) :
    w.builder.performAll? (names.map fun n ↦ orderCall s (.name n) dir) =
      .ok { w with ordering := w.ordering ++ names.map (sortKey s · dir) }.builder := by
  induction names generalizing w with
  | nil => simp [Builder.performAll?]
  | cons n names ih =>
    have hrest := ih (w := { w with ordering := w.ordering ++ [sortKey s n dir] })
      fun m hm ↦ h m (by simp [hm])
    rw [Builder.performAll?] at hrest
    rw [List.map_cons, Builder.performAll?, List.foldlM_cons, perform?_orderCall (h n (by simp)),
      Outcome.ok_bind, hrest]
    simp

/-- The calls for the page say what the query says. -/
theorem performAll?_pageCalls (hlimit : w.limit = none) (hoffset : w.offset = none)
    (hlock : w.locking = false) (lock : Bool) :
    w.builder.performAll? (pageCalls q lock) = .ok
      { w with limit := q.limit, offset := q.offset.filter (· ≠ 0), locking := lock }.builder := by
  have hcount (b : Builder) (n : Nat) :
      b.perform? (.limit (.integer n)) = .ok { b with limit := some n } ∧
        b.perform? (.offset (.integer n)) = .ok { b with offset := some n } :=
    ⟨Builder.perform?_of_takes (.limit n), Builder.perform?_of_takes (.offset n)⟩
  have hupdate (b : Builder) (h : b.kind = some .select) :
      b.perform? .forUpdate = .ok { b with locking := true } :=
    Builder.perform?_of_takes (.forUpdate h)
  obtain ⟨columns, table, predicate, ordering, limit, offset, locking⟩ := w
  cases hlimit
  cases hoffset
  cases hlock
  rw [Builder.performAll?, pageCalls, Plan.builder]
  cases q.limit <;> cases q.offset.filter (· ≠ 0) <;> cases lock <;>
    simp [hcount, hupdate, Plan.builder]

/-- The statement of a query is built from its parts. -/
theorem select?_eq {p : Option Predicate} (hread : s.read = none)
    (htable : isPlain s.table.toList = true) (hnames : ∀ n ∈ s.fields.keys, isPlain n.toList = true)
    (hkey : ∀ n ∈ s.key, isPlain n.toList = true)
    (hordering : ∀ key ∈ q.ordering, ∃ n, key.field = .name n ∧ isPlain n.toList = true)
    (hp : Option.Rel (fun f p ↦ Predicate.ofFilter? f = .ok p ∧ p.Regular) q.condition p)
    (lock : Bool) : select? s q lock = (Plan.ofQuery s q p lock).builder.build? := by
  have hsql : s.sql? = none := by simp [Source.sql?, hread]
  have hcolumns : (if s.sql?.isSome then Datum.text "*" else nameList s.fields.keys) =
      nameList s.fields.keys := by simp [hsql]
  have hsource : fromSource s = .fromTable (.text s.table) := by simp [fromSource, hsql]
  let start : Plan := ⟨s.fields.keys, s.table, none, [], none, none, false⟩
  have hstart : Builder.performAll? {} [.select (nameList s.fields.keys), fromSource s] =
      .ok start.builder := by
    rw [hsource, Builder.performAll?, List.foldlM_cons, Builder.perform?_select hnames,
      Outcome.ok_bind, List.foldlM_cons, Builder.perform?_fromTable htable]
    rfl
  have hrestricted : restricted? start.builder q.condition =
      .ok { start with predicate := p }.builder := by
    generalize q.condition = condition at hp
    cases hp with
    | none => rfl
    | some hp =>
      rw [restricted?, hp.1, Outcome.ok_bind, Builder.perform?_condition hp.2]
      simp [Plan.builder, start]
  have hmissing : ∀ n ∈ s.key.filter (!(q.ordering.filterMap (·.field.name?)).contains ·),
      isPlain n.toList = true := fun n hn ↦ hkey n (List.mem_filter.mp hn).1
  have hkeys (w : Plan) : w.builder.performAll? (keyCalls s q) = _ :=
    performAll?_orderCalls hmissing .ascending
  have hpage {w : Plan} (h : w.limit = none ∧ w.offset = none ∧ w.locking = false) :
      w.builder.performAll? (pageCalls q lock) = _ :=
    performAll?_pageCalls h.1 h.2.1 h.2.2 lock
  rw [select?, hcolumns, hstart, Outcome.ok_bind, hrestricted, Outcome.ok_bind,
    orderedBy?_eq hordering, Outcome.ok_bind, Builder.performAll?_append, hkeys, Outcome.ok_bind,
    hpage ⟨rfl, rfl, rfl⟩, Outcome.ok_bind]
  rfl

/-! ## Reading the statement -/

open Token

/-- The tokens of a test, or of what stands between tests, begin no clause. -/
theorem Item.beginsClause_of_ofTokens? {us : List Token} {is : List Item}
    (h : Item.ofTokens? us = some is) : ∀ t ∈ us, t.beginsClause = false := by
  fun_induction Item.ofTokens? us generalizing is
  case case1 => simp
  -- what is read at the front begins no clause, and what follows it is read as well
  all_goals first
    | cases h
    | obtain ⟨is', h', -⟩ := Option.map_eq_some_iff.mp h
      have hrest := ‹∀ {is : List Item}, _ = some is → _› h'
      simpa [Token.beginsClause, Keyword.beginsClause] using hrest

namespace SortKey

/-- The tokens of a sort key. -/
def tokens (k : SortKey) : List Token :=
  [.name k.column] ++ (if k.collated then [.keyword .collate, .name "C"] else []) ++
    match k.direction with
    | .ascending => [.keyword .asc, .keyword .nulls, .keyword .first]
    | .descending => [.keyword .desc, .keyword .nulls, .keyword .last]

theorem denotes_text {k : SortKey} (h : isPlain k.column.toList = true) :
    Denotes k.text.toList [] k.tokens := by
  have hname : ReadsOff (inQuotes k.column.toList) [.name k.column] := by
    simpa using readsOff_quoted (notMem_quote h)
  have hcollate : ReadsOff (inQuotes ['C']) [.name "C"] := readsOff_quoted (by simp)
  have hcollation : ReadsOff (if k.collated then " COLLATE \"C\"" else "").toList
      (if k.collated then [.keyword .collate, .name "C"] else []) := by
    cases k.collated with
    | true => exact (readsOff_spacedWords [.collate]).append hcollate
    | false =>
      intro rest
      exact Option.map_id'.symm
  have hdirection : ReadsAs (match k.direction with
        | .ascending => " ASC NULLS FIRST"
        | .descending => " DESC NULLS LAST").toList
      (match k.direction with
        | .ascending => [.keyword .asc, .keyword .nulls, .keyword .first]
        | .descending => [.keyword .desc, .keyword .nulls, .keyword .last]) := by
    cases k.direction with
    | ascending => exact readsAs_spacedWords [.asc, .nulls, .first]
    | descending => exact readsAs_spacedWords [.desc, .nulls, .last]
  have hall := (hname.append hcollation).append_readsAs hdirection
  have hslot : Token.slot ∉ k.tokens := by
    unfold tokens
    cases k.collated <;> cases k.direction <;> simp
  have hdenotes := ReadsAs.denotes hall hslot
  rw [← tokens] at hdenotes
  simpa [text] using hdenotes

theorem sortKey?_tokens {k : SortKey} (h : k.nullsFirst = (k.direction = .ascending)) :
    Select.sortKey? k.tokens = some k := by
  obtain ⟨column, collated, direction, nullsFirst⟩ := k
  cases collated <;> cases direction <;> simp_all [tokens, Select.sortKey?] <;> rfl

end SortKey

namespace Plan

/-- The pieces of text of the statement, each with its parameters and its tokens; the tokens of the
condition are given. -/
def pieces (w : Plan) (us : List Token) : List (String × List Datum × List Token) :=
  [("SELECT " ++ commaSeparated (w.columns.map quotedName), [],
      .keyword .select :: [.comma].intercalate (w.columns.map fun n ↦ [.name n])),
    ("FROM " ++ quotedName w.table, [], [.keyword .from_, .name w.table])] ++
  (w.predicate.map fun p ↦ ("WHERE " ++ ("(" ++ p.text ++ ")"), p.parameters,
    .keyword .where_ :: .opening :: us ++ [.closing])).toList ++
  (if w.ordering.isEmpty then []
    else [("ORDER BY " ++ commaSeparated (w.ordering.map SortKey.text), [],
      .keyword .order :: .keyword .by_ :: [.comma].intercalate (w.ordering.map SortKey.tokens))]) ++
  (w.limit.map fun n ↦
    ("LIMIT %s", [.integer n], [.keyword .limit, .value (.integer n)])).toList ++
  (w.offset.map fun n ↦
    ("OFFSET %s", [.integer n], [.keyword .offset, .value (.integer n)])).toList ++
  (if w.locking then [("FOR UPDATE", [], [.keyword .for_, .keyword .update])] else [])

/-- The statement clause by clause. -/
def written (w : Plan) (us : List Token) : Select.Written where
  columns := [.comma].intercalate (w.columns.map fun n ↦ [.name n])
  table := [.name w.table]
  condition := w.predicate.map fun _ ↦ .opening :: us ++ [.closing]
  ordering := if w.ordering.isEmpty then none
    else some (.keyword .by_ :: [.comma].intercalate (w.ordering.map SortKey.tokens))
  limit := w.limit.map fun n ↦ [.value (.integer n)]
  offset := w.offset.map fun n ↦ [.value (.integer n)]
  locking := if w.locking then some [.keyword .update] else none

variable {w : Plan} {us : List Token}

/-- The builder puts the pieces one behind another. -/
theorem build?_eq (hne : w.columns ≠ []) (us : List Token) :
    w.builder.build? = .ok ⟨Builder.spaced ((w.pieces us).map (·.1)),
      (w.pieces us).flatMap (·.2.1)⟩ := by
  obtain ⟨columns, table, predicate, ordering, limit, offset, locking⟩ := w
  have hcolumns : (columns.map quotedName).isEmpty = false := by simpa using hne
  rw [Builder.build?, builder]
  simp only [Builder.buildSelect?, hcolumns, Bool.false_eq_true, if_false, Outcome.pure_eq, pieces]
  cases predicate <;> cases ordering <;> cases limit <;> cases offset <;> cases locking <;>
    simp [Builder.conditionPart]

theorem tokens_pieces (w : Plan) (us : List Token) :
    [].intercalate ((w.pieces us).map (·.2.2)) = (w.written us).tokens := by
  obtain ⟨columns, table, predicate, ordering, limit, offset, locking⟩ := w
  cases predicate <;> cases ordering <;> cases limit <;> cases offset <;> cases locking <;>
    simp [pieces, written, Select.Written.tokens, Select.clauseTokens, List.intercalate]

/-- Something in parentheses. -/
theorem denotes_group {cs : List Char} {ds : List Datum} (h : Denotes cs ds us) :
    Denotes ('(' :: cs ++ [')']) ds (.opening :: us ++ [.closing]) := by
  have hclosing : Denotes [')'] [] [.closing] :=
    ReadsAs.denotes (readsOff_char rfl).readsAs (by simp)
  have hopening : ReadsOff ['('] [.opening] := readsOff_char rfl
  have hinner := h.append (separated_cons ⟨rfl, rfl⟩) (by simp) hclosing
  simpa using hinner.behind hopening (by simp)

/-- A list with commas. -/
theorem denotes_commaSeparated {α : Type} {xs : List α} {text : α → String}
    {tokens : α → List Token} (hne : xs ≠ [])
    (h : ∀ x ∈ xs, Denotes (text x).toList [] (tokens x)) :
    Denotes (commaSeparated (xs.map text)).toList [] ([.comma].intercalate (xs.map tokens)) := by
  have hcomma : ReadsOff [','] [.comma] := readsOff_char rfl
  have hall := denotes_intercalate (hcomma.append readsOff_blank) (separated_cons ⟨rfl, rfl⟩)
    (by simp) (by simp)
    (by simpa using hne : xs.map (fun x ↦ ((text x).toList, [], tokens x)) ≠ [])
    (by simpa using h)
  have hnone : (xs.map fun x ↦ ((text x).toList, ([] : List Datum), tokens x)).flatMap
      (·.2.1) = [] := by simp
  rw [hnone] at hall
  simpa [commaSeparated, Function.comp_def] using hall

theorem denotes_pieces (hne : w.columns ≠ []) (hcolumns : ∀ n ∈ w.columns, isPlain n.toList = true)
    (htable : isPlain w.table.toList = true)
    (hordering : ∀ k ∈ w.ordering, isPlain k.column.toList = true)
    (hp : ∀ p ∈ w.predicate, Denotes p.text.toList p.parameters us) :
    ∀ piece ∈ w.pieces us, Denotes piece.1.toList piece.2.1 piece.2.2 := by
  have hname {n : String} (h : isPlain n.toList = true) :
      Denotes (quotedName n).toList [] [.name n] := by
    have hread : ReadsOff (inQuotes n.toList) [.name n] := by
      simpa using readsOff_quoted (notMem_quote h)
    simpa using ReadsAs.denotes hread.readsAs (by simp)
  intro piece hpiece
  simp only [pieces, List.mem_append, List.mem_cons, List.not_mem_nil, or_false,
    Option.mem_toList, Option.map_eq_some_iff] at hpiece
  rcases hpiece with
    ((((((rfl | rfl) | ⟨p, hpred, rfl⟩) | hpiece) | ⟨n, -, rfl⟩) | ⟨n, -, rfl⟩) | hpiece)
  · have hlist := denotes_commaSeparated hne fun n hn ↦ hname (hcolumns n hn)
    simpa [Keyword.chars] using hlist.behind (readsOff_keyword .select) (by simp)
  · simpa [Keyword.chars] using (hname htable).behind (readsOff_keyword .from_) (by simp)
  · simpa [Keyword.chars] using
      (denotes_group (hp p hpred)).behind (readsOff_keyword .where_) (by simp)
  · split at hpiece
    · cases hpiece
    · rename_i hempty
      cases List.mem_singleton.mp hpiece
      have hlist := denotes_commaSeparated (by simpa using hempty)
        fun k hk ↦ SortKey.denotes_text (hordering k hk)
      have hby := hlist.behind (readsOff_keyword .by_) (by simp)
      simpa [Keyword.chars] using hby.behind (readsOff_keyword .order) (by simp)
  · simpa [Keyword.chars] using
      (denotes_slot (.integer n)).behind (readsOff_keyword .limit) (by simp)
  · simpa [Keyword.chars] using
      (denotes_slot (.integer n)).behind (readsOff_keyword .offset) (by simp)
  · split at hpiece
    · cases List.mem_singleton.mp hpiece
      have hupdate : Denotes Keyword.update.chars [] [.keyword .update] :=
        ReadsAs.denotes (readsAs_keyword .update) (by simp)
      simpa [Keyword.chars] using hupdate.behind (readsOff_keyword .for_) (by simp)
    · cases hpiece

/-- The whole text of the statement is read as its clauses. -/
theorem tokens_build? (hne : w.columns ≠ []) (hcolumns : ∀ n ∈ w.columns, isPlain n.toList = true)
    (htable : isPlain w.table.toList = true)
    (hordering : ∀ k ∈ w.ordering, isPlain k.column.toList = true)
    (hp : ∀ p ∈ w.predicate, Denotes p.text.toList p.parameters us) :
    ∃ b, w.builder.build? = .ok b ∧
      (scan? b.text).bind (bind? · b.parameters) = some (w.written us).tokens := by
  refine ⟨_, build?_eq hne us, ?_⟩
  have hall := denotes_intercalate readsOff_blank (separated_blank []) (by simp) (by simp)
    (by simp [pieces] : (w.pieces us).map (fun p ↦ (p.1.toList, p.2)) ≠ [])
    (fun p hp' ↦ by
      obtain ⟨piece, hpiece, rfl⟩ := List.mem_map.mp hp'
      exact denotes_pieces hne hcolumns htable hordering hp piece hpiece)
  have htext : (Builder.spaced ((w.pieces us).map (·.1))).toList =
      [' '].intercalate (((w.pieces us).map fun p ↦ (p.1.toList, p.2)).map (·.1)) := by
    simp [Builder.spaced, Function.comp_def]
  have hparameters : ((w.pieces us).map fun p ↦ (p.1.toList, p.2)).flatMap (·.2.1) =
      (w.pieces us).flatMap (·.2.1) := by
    simp [List.flatMap_map]
  have htokens : ((w.pieces us).map fun p ↦ (p.1.toList, p.2)).map (·.2.2) =
      (w.pieces us).map (·.2.2) := by
    simp [Function.comp_def]
  rw [← htext, hparameters, htokens, tokens_pieces] at hall
  exact hall.tokens

/-- Inside the clauses no other clause begins. -/
theorem regular_written (hp : w.predicate.isSome = true → ∀ t ∈ us, t.beginsClause = false) :
    (w.written us).Regular := by
  have hcommas {α : Type} {xs : List α} {tokens : α → List Token}
      (h : ∀ x ∈ xs, ∀ t ∈ tokens x, t.beginsClause = false) :
      ∀ t ∈ [Token.comma].intercalate (xs.map tokens), t.beginsClause = false := by
    induction xs with
    | nil => simp
    | cons x xs ih =>
      cases xs with
      | nil => simpa using h
      | cons y xs =>
        intro t ht
        rw [List.map_cons, List.map_cons, List.intercalate_cons_cons, List.mem_append,
          List.mem_append, List.mem_singleton] at ht
        rcases ht with (ht | rfl) | ht
        · exact h x (by simp) t ht
        · rfl
        · exact ih (fun z hz ↦ h z (by simp [hz])) t ht
  have hkey (k : SortKey) : ∀ t ∈ k.tokens, t.beginsClause = false := by
    unfold SortKey.tokens
    cases k.collated <;> cases k.direction <;> simp [beginsClause, Keyword.beginsClause]
  refine ⟨hcommas (by simp [beginsClause]), by simp [written, beginsClause], ?_, ?_, ?_, ?_, ?_⟩
  · intro ts hts
    obtain ⟨p, hpred, rfl⟩ := Option.map_eq_some_iff.mp hts
    intro t ht
    simp only [List.cons_append, List.mem_cons, List.mem_append, List.not_mem_nil, or_false] at ht
    rcases ht with rfl | ht | rfl
    · rfl
    · exact hp (by simp [hpred]) t ht
    · rfl
  · intro ts hts
    simp only [written] at hts
    split at hts
    · cases hts
    · cases hts
      simpa [beginsClause, Keyword.beginsClause] using hcommas fun k _ ↦ hkey k
  · intro ts hts
    obtain ⟨n, -, rfl⟩ := Option.map_eq_some_iff.mp hts
    simp [beginsClause]
  · intro ts hts
    obtain ⟨n, -, rfl⟩ := Option.map_eq_some_iff.mp hts
    simp [beginsClause]
  · intro ts hts
    simp only [written] at hts
    split at hts
    · cases hts
      simp [beginsClause, Keyword.beginsClause]
    · cases hts

theorem mapM_map_eq_some {α β : Type} {xs : List α} {f : α → β} {g : β → Option α}
    (h : ∀ x ∈ xs, g (f x) = some x) : (xs.map f).mapM g = some xs := by
  induction xs with
  | nil => rfl
  | cons x xs ih =>
    rw [List.map_cons, List.mapM_cons, h x (by simp), ih fun y hy ↦ h y (by simp [hy])]
    rfl

/-- The sort keys of a plan are as they are written. -/
def Regular (w : Plan) : Prop :=
  w.columns ≠ [] ∧ (∀ n ∈ w.columns, isPlain n.toList = true) ∧ isPlain w.table.toList = true ∧
    (∀ p ∈ w.predicate, p.Regular) ∧
    ∀ k ∈ w.ordering, isPlain k.column.toList = true ∧ k.nullsFirst = (k.direction = .ascending)

/-- The statement that is built is read as the one whose parts it was built from. -/
theorem Regular.read?_build? (h : w.Regular) :
    ∃ b, w.builder.build? = .ok b ∧ Select.read? b.text b.parameters = some w.select := by
  obtain ⟨hne, hcolumns, htable, hpredicate, hordering⟩ := h
  obtain ⟨us, hdenotes, hclause, hcondition⟩ : ∃ us,
      (∀ p ∈ w.predicate, Denotes p.text.toList p.parameters us) ∧
      (w.predicate.isSome = true → ∀ t ∈ us, t.beginsClause = false) ∧
      Select.condition? (w.written us).condition = some (w.predicate.map Predicate.condition) := by
    cases hw : w.predicate with
    | none => exact ⟨[], by simp, by simp, by simp [written, hw, Select.condition?]⟩
    | some p =>
      obtain ⟨is, ⟨us, hdenotes, hbegins⟩, hcompletes⟩ := (hpredicate p hw).reads
      have hgroup : Item.Begins (.opening :: us ++ [.closing]) (.opening :: is ++ [.closing]) :=
        (Item.begins_opening.append hbegins).append Item.begins_closing
      have hread : Condition.ofTokens? (.opening :: us ++ [.closing]) = some p.condition := by
        rw [Condition.ofTokens?, hgroup.ofTokens?, Option.bind_some,
          (Item.completes_group hcompletes).run?]
      refine ⟨us, by simpa using hdenotes,
        fun _ ↦ Item.beginsClause_of_ofTokens? hbegins.ofTokens?, ?_⟩
      simp only [written, hw, Option.map_some, Select.condition?, hread]
  obtain ⟨b, hb, htokens⟩ := tokens_build? hne hcolumns htable (fun k hk ↦ (hordering k hk).1)
    hdenotes
  refine ⟨b, hb, ?_⟩
  have hselect : (Select.parts (w.written us).columns).mapM Select.name? = some w.columns := by
    rw [written, Select.parts_intercalate (by simpa using hne) (by simp)]
    exact mapM_map_eq_some fun n _ ↦ rfl
  have hkeys : Select.ordering? (w.written us).ordering = some w.ordering := by
    have hcomma (k : SortKey) : Token.comma ∉ k.tokens := by
      unfold SortKey.tokens
      cases k.collated <;> cases k.direction <;> simp
    cases hempty : w.ordering.isEmpty with
    | true =>
      simp only [written, hempty, if_true, Select.ordering?]
      rw [List.isEmpty_iff.mp hempty]
    | false =>
      have hparts := Select.parts_intercalate
        (by simpa using hempty : w.ordering.map SortKey.tokens ≠ [])
        (by simpa using fun k _ ↦ hcomma k)
      simp only [written, hempty, Bool.false_eq_true, if_false, Select.ordering?, hparts]
      exact mapM_map_eq_some fun k hk ↦ SortKey.sortKey?_tokens (hordering k hk).2
  have hcount (n : Option Nat) :
      Select.count? (n.map fun n ↦ [.value (.integer n)]) = some n := by
    cases n with
    | none => rfl
    | some n => simp [Select.count?]
  have hlocking : Select.locking? (w.written us).locking = some w.locking := by
    cases hw : w.locking <;> simp [written, hw, Select.locking?]
  rw [Select.read?, htokens, Option.bind_some, Select.ofTokens?_tokens (regular_written hclause),
    hselect, hcondition, hkeys, hlocking, written, hcount, hcount]
  rfl

end Plan

end RecordStore.Sql
