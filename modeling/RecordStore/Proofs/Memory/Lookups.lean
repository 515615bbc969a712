import RecordStore.Proofs.Memory.Client
import RecordStore.Proofs.Query.Agreement
import RecordStore.Repository

/-!
# Lookups

The calls of a repository that read agree with each other, whether its rows are those of a table or
of a view.  What is found by a filter is the part of all entities whose rows pass it; the calls that
count, ask for existence or take one entity tell of what is found how long it is, whether it is
empty and what comes first in it.

* `Lookup` is a call that reads, and `Lookup.Reads` tells that it is one reading of the documents.
* `Lookup.Gives` is what a call gives where it finds certain documents.
* `Repository.lookups_agree` is the statement above.
-/

namespace RecordStore

open Outcome

variable {α β η ε ρ : Type}

/-- A call of a repository that reads, with what it results in. -/
inductive Lookup (α : Type) : Type → Type where
  | get (f : Filter) : Lookup α (Option α)
  | getForUpdate (f : Filter) : Lookup α (Option α)
  | getMany (q : Query) : Lookup α (List α)
  | any (f : Filter) : Lookup α Bool
  | count (f : Filter) : Lookup α Int
  | countAll : Lookup α Int

/-- What is made of the records that a query gives. -/
def Repository.fetched? (r : Repository α) (q : Query) (load : List Record → Outcome ρ)
    (s : Store) : Outcome ρ :=
  (do q.run? (← s.sourceRecords? r.source)) >>= load

namespace Lookup

/-- The call with a handle. -/
def action [Backend β η] (r : Repository α) (h : η) : Lookup α ρ → Action (β × ε) ρ
  | get f => r.get (some h) f
  | getForUpdate f => r.getForUpdate (some h) f
  | getMany q => r.getMany (some h) q
  | any f => r.any (some h) f
  | count f => r.count (some h) f
  | countAll => r.countAll (some h)

/-- May the call be made with the handle?  Only in a transaction can rows be locked. -/
def IsAllowed (m : Memory) (h : MemoryHandle) : Lookup α ρ → Prop
  | getForUpdate _ => m.isActive h = true
  | _ => True

/-- Wherever the call may be made, it is one reading of the documents through its handle. -/
def Reads (r : Repository α) (l : Lookup α ρ) (g : Store → Outcome ρ) : Prop :=
  ∀ {ε : Type} (w : World (Memory × ε)) (id : TaskId) (h : MemoryHandle)
    (k : Outcome ρ → Action (Memory × ε) Unit), l.IsAllowed w.memory h →
    w.advance id ((l.action r h).andThen k) = w.advance id ((Memory.reading h g).andThen k)

/-- The call reads the documents, and gives `a` where it finds `s`. -/
def Gives (r : Repository α) (l : Lookup α ρ) (s : Store) (a : ρ) : Prop :=
  ∃ g, l.Reads r g ∧ g s = .ok a

variable {r : Repository α} {l : Lookup α ρ} {f f' : Filter} {q q' : Query}

/-- In a transaction the call has its result at once. -/
theorem Gives.advance_inScope {a : ρ} {w : World (Memory × ε)} {id : TaskId} {n : Nat}
    (h : l.Gives r w.memory.store a) (hallowed : l.IsAllowed w.memory (.inScope n))
    (hactive : w.memory.isActive (.inScope n) = true) (k : Outcome ρ → Action (Memory × ε) Unit) :
    w.advance id ((l.action r (MemoryHandle.inScope n)).andThen k) = w.advance id (k (.ok a)) := by
  obtain ⟨g, hreads, hg⟩ := h
  rw [hreads w id _ k hallowed, Memory.reading, World.advance_accessing_inScope, if_pos hactive]
  change w.advance id (k (g w.memory.store)) = _
  rw [hg]

/-- With the shared handle the call asks for the lock, and has its result once it was given the lock
and has left it. -/
theorem Gives.advance_shared {a : ρ} {s : Store} {w : World (Memory × ε)} {id : TaskId}
    (h : l.Gives r s a) (hallowed : l.IsAllowed w.memory .shared)
    (howner : w.memory.ownsLock id = false) (k : Outcome ρ → Action (Memory × ε) Unit) :
    ∃ next, w.advance id ((l.action r MemoryHandle.shared).andThen k) =
        w.advance id (.ask (.enter .read) next) ∧
      ∀ v : World (Memory × ε), v.memory.store = s → v.advance id (next (.ok ())) =
        (v.leaving id .read).mark id
          (.paused (some v.tickets) fun told ↦ k (told.bind fun _ ↦ .ok a)) := by
  obtain ⟨g, hreads, hg⟩ := h
  refine ⟨fun told ↦ ((Action.onShared fun m ↦ (m, g m.store)).held .read told).andThen k, ?_, ?_⟩
  · rw [hreads w id _ k hallowed, Memory.reading, World.advance_accessing_shared, howner]
    rfl
  · rintro v rfl
    rw [World.advance_held_onShared, hg]
    rfl

/-! ## The reading of each call -/

section Reads

variable {w : World (Memory × ε)} {id : TaskId} {h : MemoryHandle} {locked : Bool}

/-- Fetching records and making something of them is one reading. -/
theorem advance_fetch (hallowed : locked = true → w.memory.isActive h = true)
    (load : List Record → Outcome ρ) (k : Outcome ρ → Action (Memory × ε) Unit) :
    w.advance id ((Memory.fetch h r.source q locked >>= fun rs ↦ .done (load rs)).andThen k) =
      w.advance id ((Memory.reading h (r.fetched? q load)).andThen k) := by
  have hlocked : (locked && !w.memory.isActive h) = false := by
    cases locked with
    | false => rfl
    | true =>
      rw [hallowed rfl]
      rfl
  have hload : (Memory.reading h (r.fetched? q load) : Action (Memory × ε) ρ) = _ :=
    (Memory.reading_bind h (fun s ↦ do q.run? (← s.sourceRecords? r.source)) load).symm
  rw [Memory.fetch_eq, Action.look_bind, hload]
  change w.advance id
    (Action.andThen ((if locked && !w.memory.isActive h then _ else _) >>= _) k) = _
  rw [hlocked]
  rfl

theorem reads_get (hvalid : r.validate? f = .ok f') : (get f : Lookup α _).Reads r
    (r.fetched? { condition := some f', limit := some 1 } r.loadFirst?) := by
  intro ε w id h k _
  rw [action, Repository.get, hvalid]
  refine advance_fetch ?_ r.loadFirst? k
  exact nofun

theorem reads_getForUpdate (hvalid : r.validate? f = .ok f') : (getForUpdate f : Lookup α _).Reads r
    (r.fetched? { condition := some f' } r.loadFirst?) := by
  intro ε w id h k hactive
  rw [action, Repository.getForUpdate, hvalid]
  change w.advance id (Action.andThen (if !w.memory.isActive h then _ else _) k) = _
  rw [show w.memory.isActive h = true from hactive]
  exact advance_fetch (fun _ ↦ hactive) r.loadFirst? k

theorem reads_getMany (hvalid : q.validate? r.source.fields = .ok q')
    (hpage : q'.isEmptyPage = false) : (getMany q : Lookup α _).Reads r
    (r.fetched? q' r.loadAll?) := by
  intro ε w id h k _
  rw [action, Repository.getMany, hvalid]
  change w.advance id (Action.andThen (if q'.isEmptyPage then _ else _) k) = _
  rw [hpage]
  refine advance_fetch ?_ r.loadAll? k
  exact nofun

theorem reads_any (hvalid : r.validate? f = .ok f') : (any f : Lookup α _).Reads r
    (fun s ↦ do Memory.anyMatch? f' (← s.sourceRecords? r.source)) := by
  intro ε w id h k _
  rw [action, Repository.any, hvalid]
  rfl

theorem reads_count (hvalid : r.validate? f = .ok f') : (count f : Lookup α _).Reads r
    (fun s ↦ do return (← Filter.select? (some f') (← s.sourceRecords? r.source)).length) := by
  intro ε w id h k _
  rw [action, Repository.count, hvalid]
  rfl

theorem reads_countAll : (countAll : Lookup α _).Reads r
    (fun s ↦ do return (← Filter.select? none (← s.sourceRecords? r.source)).length) := by
  intro ε w id h k _
  rfl

end Reads

end Lookup

/-! ## Rows and their entities -/

/-- A filter that tells of every record whether it passes tells whether some record does. -/
theorem Memory.anyMatch?_eq_ok {f : Filter} {pass : Record → Bool} {rows : List Record}
    (h : ∀ x ∈ rows, f.matches? x = .ok (pass x)) : anyMatch? f rows = .ok (rows.any pass) := by
  induction rows with
  | nil => rfl
  | cons x rows ih =>
    rw [anyMatch?, h x List.mem_cons_self, ih fun y hy ↦ h y (List.mem_cons_of_mem _ hy)]
    cases hpass : pass x <;> simp [hpass]

/-- Without order keys, a query takes the page of the records that its filter keeps. -/
theorem Query.run?_of_unordered {q : Query} {rows kept : List Record} (hordering : q.ordering = [])
    (hpage : q.isEmptyPage = false) (h : Filter.select? q.condition rows = .ok kept) :
    q.run? rows = .ok (q.page kept) := by
  rw [run?, hpage, h, hordering]
  rfl

namespace Repository

/-- The documents give the repository these rows, each with its entity, and the filter tells which
of them pass. -/
structure Shows (r : Repository α) (s : Store) (f : Filter) (rows : List (Record × α))
    (pass : Record → Bool) : Prop where
  records : s.sourceRecords? r.source = .ok (rows.map Prod.fst)
  entities : ∀ p ∈ rows, r.mapping.fromRecord? p.1 = .ok p.2
  verdicts : ∀ p ∈ rows, f.matches? p.1 = .ok (pass p.1)

/-- The rows that pass. -/
def passing (rows : List (Record × α)) (pass : Record → Bool) : List (Record × α) :=
  rows.filter fun p ↦ pass p.1

/-- The calls that read agree: what they give is told by all the entities and by those that are
found by the filter. -/
structure LookupsAgree (r : Repository α) (f : Filter) (s : Store) (all found : List α) : Prop where
  getMany_all : (Lookup.getMany {}).Gives r s all
  getMany : (Lookup.getMany { condition := some f }).Gives r s found
  count : (Lookup.count f).Gives r s found.length
  any : (Lookup.any f).Gives r s (decide (0 < found.length))
  get : (Lookup.get f).Gives r s found.head?
  getForUpdate : (Lookup.getForUpdate f).Gives r s found.head?
  countAll : Lookup.countAll.Gives r s all.length
  /-- The empty conjunction counts all entities. -/
  count_empty : (Lookup.count (.all [])).Gives r s all.length

variable {r : Repository α} {s : Store} {f f' : Filter} {q : Query} {rs : List Record}
  {rows : List (Record × α)} {pass : Record → Bool}

theorem loadAll?_rows (h : ∀ p ∈ rows, r.mapping.fromRecord? p.1 = .ok p.2) :
    r.loadAll? (rows.map Prod.fst) = .ok (rows.map Prod.snd) := by
  apply mapM_eq_ok.mpr
  rw [List.forall₂_map_left_iff, List.forall₂_map_right_iff, List.forall₂_same]
  exact h

theorem loadFirst?_rows (h : ∀ p ∈ rows, r.mapping.fromRecord? p.1 = .ok p.2) :
    r.loadFirst? (rows.map Prod.fst) = .ok (rows.map Prod.snd).head? := by
  cases rows with
  | nil => rfl
  | cons p rows =>
    rw [List.map_cons, loadFirst?, h p List.mem_cons_self]
    rfl

theorem loadFirst?_take_one (xs : List Record) : r.loadFirst? (xs.take 1) = r.loadFirst? xs := by
  cases xs <;> rfl

/-- Without order keys, something is made of the page of the records that are kept. -/
theorem fetched?_of_unordered {kept : List Record} (hrows : s.sourceRecords? r.source = .ok rs)
    (hordering : q.ordering = []) (hpage : q.isEmptyPage = false)
    (hselect : Filter.select? q.condition rs = .ok kept) (load : List Record → Outcome ρ) :
    r.fetched? q load s = load (q.page kept) := by
  rw [fetched?, hrows, ok_bind, Query.run?_of_unordered hordering hpage hselect, ok_bind]

/-- A query of a valid filter is valid. -/
theorem validate?_query (hvalid : r.validate? f = .ok f') :
    ({ condition := some f } : Query).validate? r.source.fields = .ok { condition := some f' } :=
  bind_eq_ok.mpr ⟨(), rfl, bind_eq_ok.mpr ⟨f', hvalid, rfl⟩⟩

namespace Shows

theorem matches? (h : r.Shows s f rows pass) :
    ∀ x ∈ rows.map Prod.fst, f.matches? x = .ok (pass x) := by
  intro x hx
  obtain ⟨p, hp, rfl⟩ := List.mem_map.mp hx
  exact h.verdicts p hp

/-- The records that pass are those of the rows that do. -/
theorem keep? (h : r.Shows s f rows pass) :
    f.keep? (rows.map Prod.fst) = .ok ((passing rows pass).map Prod.fst) := by
  rw [Query.keep?_eq_ok h.matches?, List.filter_map]
  rfl

/-- Some record passes if there are rows that do. -/
theorem anyMatch? (h : r.Shows s f rows pass) : Memory.anyMatch? f (rows.map Prod.fst) =
    .ok (decide (0 < ((passing rows pass).map Prod.snd).length)) := by
  rw [Memory.anyMatch?_eq_ok h.matches?, List.length_map, passing, List.any_map]
  congr 1
  rw [Bool.eq_iff_iff, decide_eq_true_iff, List.length_filter_pos_iff, List.any_eq_true]
  rfl

/-- The rows that pass have their entities too. -/
theorem entities_of_pass (h : r.Shows s f rows pass) :
    ∀ p ∈ passing rows pass, r.mapping.fromRecord? p.1 = .ok p.2 :=
  fun p hp ↦ h.entities p (List.mem_filter.mp hp).1

end Shows

/-- Rows of which the filter and the mapping make something are shown. -/
theorem exists_shows (hrows : s.sourceRecords? r.source = .ok rs)
    (hmatches : ∀ x ∈ rs, ∃ b, f.matches? x = .ok b)
    (hloads : ∀ x ∈ rs, ∃ a, r.mapping.fromRecord? x = .ok a) :
    ∃ rows pass, rows.map Prod.fst = rs ∧ r.Shows s f rows pass := by
  choose! pass hpass using hmatches
  obtain ⟨xs, hxs⟩ := exists_mapM_eq_ok.mpr hloads
  have hall := mapM_eq_ok.mp hxs
  have hfst : (rs.zip xs).map Prod.fst = rs := List.map_fst_zip hall.length_eq.le
  refine ⟨rs.zip xs, pass, hfst, ?_, ?_, ?_⟩
  · rw [hfst]
    exact hrows
  · rintro ⟨x, a⟩ hp
    exact List.forall₂_zip hall hp
  · rintro ⟨x, a⟩ hp
    exact hpass x (List.of_mem_zip hp).1

open Lookup in
/-- The calls that read agree on documents whose rows can be filtered and loaded: all the entities
are those of the rows, and found are those whose rows pass. -/
theorem lookups_agree (hvalid : r.validate? f = .ok f')
    (hrows : s.sourceRecords? r.source = .ok rs) (hmatches : ∀ x ∈ rs, ∃ b, f'.matches? x = .ok b)
    (hloads : ∀ x ∈ rs, ∃ a, r.mapping.fromRecord? x = .ok a) :
    ∃ rows pass, rows.map Prod.fst = rs ∧ r.Shows s f' rows pass ∧
      r.LookupsAgree f s (rows.map Prod.snd) ((passing rows pass).map Prod.snd) := by
  obtain ⟨rows, pass, rfl, h⟩ := exists_shows hrows hmatches hloads
  have hkept : Filter.select? (some f') (rows.map Prod.fst) = _ := h.keep?
  have hentities := h.entities_of_pass
  have hempty : (Filter.all []).keep? (rows.map Prod.fst) = .ok (rows.map Prod.fst) := by
    rw [Query.keep?_eq_ok fun _ _ ↦ rfl]
    exact congrArg Except.ok (List.filter_true _)
  have hlength (ps : List (Record × α)) :
      (.ok (ps.map Prod.fst).length : Outcome Int) = .ok (ps.map Prod.snd).length := by
    rw [List.length_map, List.length_map]
  refine ⟨rows, pass, rfl, h, ?_⟩
  exact
    { getMany_all := by
        refine ⟨_, reads_getMany rfl rfl, ?_⟩
        exact (fetched?_of_unordered hrows rfl rfl rfl _).trans (loadAll?_rows h.entities)
      getMany := by
        refine ⟨_, reads_getMany (validate?_query hvalid) rfl, ?_⟩
        exact (fetched?_of_unordered hrows rfl rfl hkept _).trans (loadAll?_rows hentities)
      count := by
        refine ⟨_, reads_count hvalid, ?_⟩
        rw [hrows, ok_bind, hkept]
        exact hlength (passing rows pass)
      any := by
        refine ⟨_, reads_any hvalid, ?_⟩
        rw [hrows, ok_bind]
        exact h.anyMatch?
      get := by
        refine ⟨_, reads_get hvalid, ?_⟩
        rw [fetched?_of_unordered hrows rfl rfl hkept]
        exact (loadFirst?_take_one _).trans (loadFirst?_rows hentities)
      getForUpdate := by
        refine ⟨_, reads_getForUpdate hvalid, ?_⟩
        exact (fetched?_of_unordered hrows rfl rfl hkept _).trans (loadFirst?_rows hentities)
      countAll := by
        refine ⟨_, reads_countAll, ?_⟩
        rw [hrows]
        exact hlength rows
      count_empty := by
        refine ⟨_, reads_count rfl, ?_⟩
        rw [hrows, ok_bind, Filter.select?, hempty]
        exact hlength rows }

/-- Users whose rows are those of the people. -/
def viewed : Repository Int where
  table := "users"
  mapping := {
    fields := [("id", .integer)]
    name := "User"
    dump := fun i ↦ .ok [("id", .integer i)]
    load := fun x ↦ match (x.valueOrNull "id").data with
      | .integer i => .ok i
      | _ => .error .wrongType
    declares := List.cons_ne_nil _ _ }
  read := some { view := some (View.table "people" []) }

/-- The record of a person. -/
def person (i : Int) : Record := ⟨[("id", ⟨.integer, .integer i⟩)], []⟩

/-- Three people. -/
def people : Store where
  tables := [("people", [⟨1, person 3, []⟩, ⟨2, person 7, []⟩, ⟨3, person 9, []⟩])]
  lastRow := 3

/-- Two of the three people have a number above five. -/
theorem lookups_agree_people :
    let f := Filter.compare (.name "id") .gt (.one ⟨.integer, .integer 5⟩)
    let rs := [person 3, person 7, person 9]
    viewed.validate? f = .ok f ∧ people.sourceRecords? viewed.source = .ok rs ∧
      (∀ x ∈ rs, ∃ b, f.matches? x = .ok b) ∧
      (∀ x ∈ rs, ∃ a, viewed.mapping.fromRecord? x = .ok a) ∧
      viewed.LookupsAgree f people [3, 7, 9] [7, 9] := by
  intro f rs
  have hvalid : viewed.validate? f = .ok f := rfl
  have hrows : people.sourceRecords? viewed.source = .ok rs := rfl
  have hmatches : ∀ x ∈ rs, ∃ b, f.matches? x = .ok b := by
    simp only [rs, List.forall_mem_cons]
    exact ⟨⟨_, rfl⟩, ⟨_, rfl⟩, ⟨_, rfl⟩, nofun⟩
  have hloads : ∀ x ∈ rs, ∃ a, viewed.mapping.fromRecord? x = .ok a := by
    simp only [rs, List.forall_mem_cons]
    exact ⟨⟨_, rfl⟩, ⟨_, rfl⟩, ⟨_, rfl⟩, nofun⟩
  obtain ⟨rows, pass, hfst, hshows, hagree⟩ := lookups_agree hvalid hrows hmatches hloads
  -- the entities are what is loaded from the rows, and from those that the filter keeps
  have hall := loadAll?_rows hshows.entities
  have hkept := hshows.keep?
  have hfound := loadAll?_rows hshows.entities_of_pass
  rw [hfst] at hall hkept
  have hpassing : (passing rows pass).map Prod.fst = [person 7, person 9] :=
    (Except.ok.inj hkept).symm
  rw [hpassing] at hfound
  rw [← Except.ok.inj hall, ← Except.ok.inj hfound] at hagree
  exact ⟨hvalid, hrows, hmatches, hloads, hagree⟩

end Repository

end RecordStore
