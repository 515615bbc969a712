import RecordStore.Proofs.Memory.Turn
import RecordStore.Proofs.Outcome

/-!
# Serial histories

A history is serial if what has happened to the documents comes to transactions and single calls
made one after another.  Calls answer what they answer there; a transaction that was undone leaves
no trace in the documents, and neither does a call that has failed.

* `Store.Declares` is what a source has to agree with.
* `Serial` is a serial history, with the store that it leaves.
* `Ledger` is a serial history with at most one transaction that has not ended.
-/

namespace RecordStore

namespace Store

/-- The key and the shape of the source are those that are declared of its table. -/
structure Declares (s : Store) (src : Source) : Prop where
  key : src.key.isEmpty ∨ s.keys.lookup src.table = some src.key
  shape : src.fields.isEmpty ∨ s.shapes.lookup src.table = some src.fields

/-- The stores have the same declarations. -/
structure Agrees (s s' : Store) : Prop where
  keys : s'.keys = s.keys
  shapes : s'.shapes = s.shapes

variable {s s' s'' : Store} {src : Source} {table : String}

theorem Agrees.refl (s : Store) : Agrees s s := ⟨rfl, rfl⟩

theorem Agrees.trans (h : Agrees s s') (h' : Agrees s' s'') : Agrees s s'' :=
  ⟨h'.keys.trans h.keys, h'.shapes.trans h.shapes⟩

theorem Declares.agrees (h : s.Declares src) (hs : Agrees s s') : s'.Declares src where
  key := by
    rw [hs.keys]
    exact h.key
  shape := by
    rw [hs.shapes]
    exact h.shape

theorem insert_eq_self {β : Type} {m : Assoc β} {k : String} {v : β} (h : m.lookup k = some v) :
    m.insert k v = m := by
  induction m with
  | nil => cases h
  | cons p rest ih =>
    obtain ⟨k', v'⟩ := p
    rw [Assoc.insert]
    by_cases hk : k' = k
    · subst hk
      rw [List.lookup_cons, beq_self_eq_true] at h
      cases h
      exact if_pos rfl
    · rw [List.lookup_cons, beq_eq_false_iff_ne.mpr (Ne.symm hk)] at h
      rw [if_neg hk, ih h]

theorem tables_declare (s : Store) (src : Source) : (s.declare src).tables = s.tables := by
  unfold declare declareKey declareShape
  split <;> split <;> rfl

/-- To declare again what is declared changes nothing. -/
theorem Declares.declare_eq (h : s.Declares src) : s.declare src = s := by
  have hkey : s.declareKey src.table src.key = s := by
    rw [declareKey]
    split
    · rfl
    · rename_i hempty
      rw [insert_eq_self (h.key.resolve_left hempty)]
  rw [declare, hkey, declareShape]
  split
  · rfl
  · rename_i hempty
    rw [insert_eq_self (h.shape.resolve_left hempty)]

/-- The store after some row numbers were used up. -/
def skipped (s : Store) (lastRow : Nat) : Store := { s with lastRow }

/-- What a write does to a store: declarations stay, and a write that fails changes nothing but
that it may use up row numbers. -/
structure Harmless (s : Store) (e : Effect) : Prop where
  agrees : Agrees s e.1
  failed : ∀ f, e.2 = .error f → e.1 = s.skipped e.1.lastRow

theorem harmless_insert (s : Store) (table : String) (r : Record) :
    Harmless s (s.insert table r) := by
  rw [insert]
  split
  · exact ⟨⟨rfl, rfl⟩, fun f hf ↦ by cases hf⟩
  · exact ⟨⟨rfl, rfl⟩, fun f _ ↦ rfl⟩

theorem harmless_effect {next : Outcome (Store × Nat)} (h : ∀ p, next = .ok p → Agrees s p.1) :
    Harmless s (s.effect next) := by
  unfold effect
  split
  · exact ⟨h _ rfl, fun f hf ↦ by cases hf⟩
  · exact ⟨.refl s, fun f _ ↦ rfl⟩

theorem agrees_update {f : Filter} {values : Assoc Value} {p : Store × Nat}
    (h : s.update? table f values = .ok p) : Agrees s p.1 := by
  obtain ⟨replacement, -, h⟩ := Outcome.bind_eq_ok.mp h
  obtain ⟨⟨rows, changed⟩, -, h⟩ := Outcome.bind_eq_ok.mp h
  dsimp only at h
  split at h
  · cases h
    exact .refl s
  · obtain ⟨_, -, h⟩ := Outcome.bind_eq_ok.mp h
    cases h
    exact ⟨rfl, rfl⟩

theorem agrees_delete {f : Filter} {p : Store × Nat} (h : s.delete? table f = .ok p) :
    Agrees s p.1 := by
  obtain ⟨kept, -, h⟩ := Outcome.bind_eq_ok.mp h
  cases h
  dsimp only
  split
  · exact .refl s
  · exact ⟨rfl, rfl⟩

theorem harmless_write (s : Store) (w : WriteStatement) : Harmless s (s.write w) := by
  cases w with
  | insert table values =>
    rw [write]
    split
    · exact harmless_insert s _ _
    · exact ⟨.refl s, fun f _ ↦ rfl⟩
  | update table f values =>
    refine harmless_effect fun p hp ↦ ?_
    obtain ⟨vs, -, hp⟩ := Outcome.bind_eq_ok.mp hp
    obtain ⟨g, -, hp⟩ := Outcome.bind_eq_ok.mp hp
    exact agrees_update hp
  | delete table f =>
    refine harmless_effect fun p hp ↦ ?_
    obtain ⟨g, -, hp⟩ := Outcome.bind_eq_ok.mp hp
    exact agrees_delete hp
  | sql text values => exact ⟨.refl s, fun f _ ↦ rfl⟩
  | junk d => exact ⟨.refl s, fun f _ ↦ rfl⟩

theorem agrees_writeAll (s : Store) (ws : List WriteStatement) : Agrees s (s.writeAll ws).1 := by
  induction ws generalizing s with
  | nil => exact .refl s
  | cons w ws ih =>
    have hfirst := (harmless_write s w).agrees
    rw [writeAll]
    split
    · rename_i s' _ hw
      rw [hw] at hfirst
      exact hfirst.trans (ih s')
    · rename_i s' f hw
      rw [hw] at hfirst
      exact hfirst

/-- What was kept brings a store back from any other one with its declarations. -/
theorem Agrees.restore_checkpoint (h : Agrees s s') : s'.restore s.checkpoint = s := by
  cases s
  cases s'
  cases h
  simp_all [restore, checkpoint]

theorem harmless_batch (s : Store) (ws : List WriteStatement) : Harmless s (s.batch ws) := by
  have hall := agrees_writeAll s ws
  rw [batch]
  split
  · rename_i s' _ hw
    rw [hw] at hall
    exact ⟨hall, fun f hf ↦ by cases hf⟩
  · rename_i s' f hw
    rw [hw] at hall
    rw [hall.restore_checkpoint]
    exact ⟨.refl s, fun _ _ ↦ rfl⟩

end Store

namespace Verb

/-- The source that a call declares. -/
def declared? : Verb → Option Source
  | insert src _ | update src _ _ | delete src _ => some src
  | _ => none

/-- A call does to the store what a write may do. -/
theorem harmless_run (v : Verb) {s : Store} (h : ∀ src ∈ v.declared?, s.Declares src) :
    Store.Agrees s (v.run s).1 ∧
      ∀ f, (v.run s).2 = .error f → (v.run s).1 = s.skipped (v.run s).1.lastRow := by
  have hreplied {e : Store.Effect} (he : Store.Harmless s e) : Store.Agrees s (replied e).1 ∧
      ∀ f, (replied e).2 = .error f → (replied e).1 = s.skipped (replied e).1.lastRow := by
    obtain ⟨s', r⟩ := e
    cases r with
    | ok _ => exact ⟨he.agrees, fun f hf ↦ by cases hf⟩
    | error f => exact ⟨he.agrees, fun _ _ ↦ he.failed f rfl⟩
  cases v with
  | fetch src q locked => exact ⟨.refl s, fun _ _ ↦ rfl⟩
  | any src f => exact ⟨.refl s, fun _ _ ↦ rfl⟩
  | count src f => exact ⟨.refl s, fun _ _ ↦ rfl⟩
  | insert src r =>
    rw [run, (h src rfl).declare_eq]
    exact hreplied (Store.harmless_insert s _ _)
  | update src f r =>
    rw [run, (h src rfl).declare_eq]
    exact hreplied (Store.harmless_effect fun _ hp ↦ Store.agrees_update hp)
  | delete src f =>
    rw [run, (h src rfl).declare_eq]
    exact hreplied (Store.harmless_effect fun _ hp ↦ Store.agrees_delete hp)
  | execute ws => exact hreplied (Store.harmless_batch s ws)

end Verb

/-! ## Serial histories -/

/-- The task that begins a transaction. -/
def Event.opener? : Event → Option TaskId
  | .began id _ => some id
  | _ => none

/-- The tasks that have begun transactions, in the order of these. -/
def openers (es : List Event) : List TaskId := es.filterMap Event.opener?

/-- Calls through the handle of a transaction, made one after another on a store. -/
inductive Calls (id : TaskId) (n : Nat) (s : Store) : List Event → Store → Prop
  | none : Calls id n s [] s
  | call {es : List Event} {s' : Store} (v : Verb) (h : Calls id n s es s') :
    Calls id n s (es ++ [.scoped id n v (v.run s').2]) (v.run s').1

/-- Transactions and single calls, made one after another on a store. -/
inductive Serial (s₀ : Store) : List Event → Store → Prop
  | none : Serial s₀ [] s₀
  /-- A single call that has succeeded. -/
  | alone {es : List Event} {s : Store} {id : TaskId} {v : Verb} {r : Verb.Reply}
    (h : Serial s₀ es s) (hv : (v.run s).2 = .ok r) :
    Serial s₀ (es ++ [.alone id v (.ok r)]) (v.run s).1
  /-- A single call that has failed: all that it leaves is that it may have used up row numbers. -/
  | failed {es : List Event} {s : Store} {id : TaskId} {v : Verb} {f : Fault}
    (h : Serial s₀ es s) (hv : (v.run s).2 = .error f) :
    Serial s₀ (es ++ [.alone id v (.error f)]) (s.skipped (v.run s).1.lastRow)
  | committed {es calls : List Event} {s s' : Store} {id : TaskId} {n : Nat}
    (h : Serial s₀ es s) (hcalls : Calls id n s calls s') :
    Serial s₀ (es ++ .began id n :: calls ++ [.committed id n]) s'
  | rolledBack {es calls : List Event} {s s' : Store} {id : TaskId} {n : Nat}
    (h : Serial s₀ es s) (hcalls : Calls id n s calls s') :
    Serial s₀ (es ++ .began id n :: calls ++ [.rolledBack id n]) s

/-- A serial history in a memory where no transaction is under way, or one after which the one that
is under way has made calls. -/
inductive Ledger (s₀ : Store) (m : Memory) : List Event → Prop
  | closed {es : List Event} (hserial : Serial s₀ es m.store) (howner : m.owner = none)
    (hactive : ∀ n, m.isActive (.inScope n) = false) : Ledger s₀ m es
  | opened {es calls : List Event} {s : Store} {id : TaskId} {n : Nat} (hserial : Serial s₀ es s)
    (hagrees : Store.Agrees s₀ s) (hcalls : Calls id n s calls m.store) (howner : m.owner = some id)
    (hscope : m.scopes[n]? = some { checkpoint := s.checkpoint })
    (hactive : ∀ k, m.isActive (.inScope k) = true → k = n)
    (hopener : (openers (es ++ .began id n :: calls))[n]? = some id) :
    Ledger s₀ m (es ++ .began id n :: calls)

section Openers

variable {es es' : List Event} {id : TaskId} {n : Nat}

theorem openers_append (es es' : List Event) : openers (es ++ es') = openers es ++ openers es' :=
  List.filterMap_append

/-- What has begun stays so. -/
theorem opener_append (h : (openers es)[n]? = some id) :
    (openers (es ++ es'))[n]? = some id := by
  rw [openers_append, List.getElem?_append_left (List.getElem?_eq_some_iff.mp h).1, h]

end Openers

namespace Memory

variable {m : Memory} {id : TaskId} {n k : Nat}

theorem isActive_opened : (m.opened id).isActive (.inScope k) = true ↔
    k = m.scopes.length ∨ m.isActive (.inScope k) = true := by
  rw [isActive, isActive, opened, List.getElem?_append]
  split
  · rename_i hlt
    rw [or_iff_right (Nat.ne_of_lt hlt)]
  · rename_i hge
    rw [List.getElem?_eq_none (Nat.le_of_not_lt hge)]
    by_cases hk : k = m.scopes.length
    · simp [hk]
    · have hpos : 0 < k - m.scopes.length := by omega
      rw [List.getElem?_eq_none (by exact hpos)]
      simp [hk]

theorem isActive_ended : (m.ended n).isActive (.inScope k) = true ↔
    k ≠ n ∧ m.isActive (.inScope k) = true := by
  rw [isActive, isActive, ended, List.getElem?_modify]
  cases m.scopes[k]? with
  | none => simp
  | some scope =>
    by_cases hk : n = k
    · simp [hk]
    · simp [hk, Ne.symm hk]

theorem isActive_restored : (m.restored n).isActive (.inScope k) = m.isActive (.inScope k) := by
  rw [restored]
  split <;> rfl

end Memory

namespace Ledger

variable {s₀ : Store} {m : Memory} {es : List Event} {id : TaskId} {n : Nat}

/-- Only where a transaction is under way is there a scope that is active, and it is that of the
transaction. -/
theorem of_active (h : Ledger s₀ m es) (hn : m.isActive (.inScope n) = true)
    (hopener : (openers es)[n]? = some id) :
    ∃ es' calls s, es = es' ++ .began id n :: calls ∧ Serial s₀ es' s ∧ Store.Agrees s₀ s ∧
      Calls id n s calls m.store ∧ m.owner = some id ∧
      m.scopes[n]? = some { checkpoint := s.checkpoint } ∧
      ∀ k, m.isActive (.inScope k) = true → k = n := by
  cases h with
  | closed hserial howner hactive =>
    rw [hactive n] at hn
    cases hn
  | @opened es' calls s id' n' hserial hagrees hcalls howner hscope hactive hopener' =>
    obtain rfl := hactive n hn
    rw [hopener'] at hopener
    cases hopener
    exact ⟨es', calls, s, rfl, hserial, hagrees, hcalls, howner, hscope, hactive⟩

/-- A single call is made where no transaction is under way. -/
theorem alone (h : Ledger s₀ m es) (howner : m.owner = none) (v : Verb)
    (hv : ∀ src ∈ v.declared?, m.store.Declares src) :
    Ledger s₀ { m with store := (v.run m.store).1 } (es ++ [.alone id v (v.run m.store).2]) := by
  cases h with
  | opened _ _ _ howner' =>
    rw [howner] at howner'
    cases howner'
  | closed hserial _ hactive =>
    refine .closed ?_ howner hactive
    have hfailed := (v.harmless_run hv).2
    cases hr : (v.run m.store).2 with
    | ok r => exact hserial.alone hr
    | error f =>
      rw [hr] at hfailed
      rw [hfailed f rfl]
      exact hserial.failed hr

theorem begin (h : Ledger s₀ m es) (howner : m.owner = none) (hagrees : Store.Agrees s₀ m.store)
    (hlength : (openers es).length = m.scopes.length) :
    Ledger s₀ (m.opened id) (es ++ [.began id m.scopes.length]) := by
  cases h with
  | opened _ _ _ howner' =>
    rw [howner] at howner'
    cases howner'
  | closed hserial _ hactive =>
    refine .opened hserial hagrees .none rfl ?_ ?_ ?_
    · rw [Memory.opened, List.getElem?_concat_length]
    · intro k hk
      rcases Memory.isActive_opened.mp hk with hk | hk
      · exact hk
      · rw [hactive k] at hk
        cases hk
    · rw [openers_append, ← hlength]
      exact List.getElem?_concat_length

theorem call (h : Ledger s₀ m es) (hn : m.isActive (.inScope n) = true)
    (hopener : (openers es)[n]? = some id) (v : Verb) :
    Ledger s₀ { m with store := (v.run m.store).1 } (es ++ [.scoped id n v (v.run m.store).2]) := by
  obtain ⟨es', calls, s, rfl, hserial, hagrees, hcalls, howner, hscope, hactive⟩ :=
    h.of_active hn hopener
  rw [List.append_assoc, List.cons_append]
  refine .opened hserial hagrees (hcalls.call v) howner hscope hactive ?_
  rw [← List.cons_append, ← List.append_assoc]
  exact opener_append hopener

theorem commit (h : Ledger s₀ m es) (hn : m.isActive (.inScope n) = true)
    (hopener : (openers es)[n]? = some id) :
    Ledger s₀ (m.ended n) (es ++ [.committed id n]) := by
  obtain ⟨es', calls, s, rfl, hserial, -, hcalls, -, -, hactive⟩ := h.of_active hn hopener
  refine .closed (hserial.committed hcalls) rfl fun k ↦ ?_
  rw [← Bool.not_eq_true, Memory.isActive_ended]
  exact fun hk ↦ hk.1 (hactive k hk.2)

/-- An undone transaction leaves the documents as they were when it began. -/
theorem undo (h : Ledger s₀ m es) (hn : m.isActive (.inScope n) = true)
    (hopener : (openers es)[n]? = some id) (hagrees : Store.Agrees s₀ m.store) :
    Ledger s₀ ((m.restored n).ended n) (es ++ [.rolledBack id n]) := by
  obtain ⟨es', calls, s, rfl, hserial, hbefore, hcalls, -, hscope, hactive⟩ :=
    h.of_active hn hopener
  have hstore : (m.restored n).store = s := by
    rw [Memory.restored, hscope]
    have hs : Store.Agrees s m.store :=
      ⟨hagrees.keys.trans hbefore.keys.symm, hagrees.shapes.trans hbefore.shapes.symm⟩
    exact hs.restore_checkpoint
  have hserial' : Serial s₀ (es' ++ .began id n :: calls ++ [.rolledBack id n])
      ((m.restored n).ended n).store := by
    rw [Memory.ended, hstore]
    exact hserial.rolledBack hcalls
  refine .closed hserial' rfl fun k ↦ ?_
  rw [← Bool.not_eq_true, Memory.isActive_ended, Memory.isActive_restored]
  exact fun hk ↦ hk.1 (hactive k hk.2)

end Ledger

end RecordStore
