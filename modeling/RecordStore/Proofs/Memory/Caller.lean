import RecordStore.Proofs.Memory.Lists
import RecordStore.Proofs.Memory.Scoping

/-!
# Tasks that use any handles

A `Caller` is what a task does that has got hold of handles of the in-memory store, or of the store
itself.  Unlike a `Client`, it may use any of them at any time, also one that another task has begun
a transaction with or one whose transaction has ended long ago, and it may end a transaction twice
or never.

* `Caller.act` is the caller as an action of a task.
* `Action.Mindful` follows who has the lock during an action: its own task, or the transaction that
  has not ended.  `Caller.mindful_act` shows that every caller is mindful.
-/

namespace RecordStore

/-- What can be asked of a handle, work in a transaction of its own apart. -/
inductive HandleCall where
  | verb (v : Verb)
  | inTransaction
  | openScope
  | commit
  | rollback

/-- What a handle answers. -/
inductive HandleCall.Reply where
  | verb (r : Verb.Reply)
  | truth (b : Bool)
  | handle (h : MemoryHandle)
  | nothing

/-- The call on a handle. -/
def HandleCall.act {ε : Type} (h : MemoryHandle) :
    HandleCall → Action (Memory × ε) HandleCall.Reply
  | verb v => do return .verb (← v.call h)
  | inTransaction => do return .truth (← Memory.inTransaction h)
  | openScope => do return .handle (← Memory.openScope h)
  | commit => do
    Memory.commit h
    return .nothing
  | rollback => do
    Memory.rollback h
    return .nothing

/-- What can be asked of the store itself. -/
inductive StoreCall where
  | rows (table : String) (fields : Shape)
  | snapshot
  | shape (table : String)
  | declareKey (table : String) (key : List String)
  | declareShape (table : String) (fields : Shape)
  | write (c : TableCall)

/-- What the store answers. -/
inductive StoreCall.Reply where
  | records (rs : List Record)
  | tables (rs : Snapshot)
  | shape (fields : Option Shape)
  /-- For an update and a delete, how many records there were. -/
  | changed (n : Option Nat)

/-- What a call does to the store, and what is answered. -/
def StoreCall.run (s : Store) : StoreCall → Store × Outcome StoreCall.Reply
  | rows table fields => (s, (s.records? table fields).map .records)
  | snapshot => (s, s.snapshot?.map .tables)
  | shape table => (s, .ok (.shape (s.shape? table)))
  | declareKey table key => (s.declareKey table key, .ok (.changed none))
  | declareShape table fields => (s.declareShape table fields, .ok (.changed none))
  | write c => ((c.make s).1, (c.make s).2.map .changed)

/-- The call on the store, which takes no lock. -/
def StoreCall.act {ε : Type} (c : StoreCall) : Action (Memory × ε) StoreCall.Reply :=
  Action.onShared fun m ↦ ({ m with store := (c.run m.store).1 }, (c.run m.store).2)

/-- What a task does with any handles and with the store.  `ε` is what tasks have in common beside
the documents, such as the handles that they pass on, and `ρ` is what work results in. -/
inductive Caller (ε ρ : Type) where
  | done (r : Outcome ρ)
  | see (next : ε → Caller ε ρ)
  | set (e : ε) (next : Caller ε ρ)
  | self (next : TaskId → Caller ε ρ)
  | ends (next : List (Option (Outcome Unit)) → Caller ε ρ)
  /-- Waits for something, or lets others go on. -/
  | ask (q : Request) (free : q.isFree = true) (next : Outcome Unit → Caller ε ρ)
  | start (work : Caller ε ρ) (next : TaskId → Caller ε ρ)
  | store (c : StoreCall) (next : Outcome StoreCall.Reply → Caller ε ρ)
  | call (h : MemoryHandle) (c : HandleCall) (next : Outcome HandleCall.Reply → Caller ε ρ)
  | transaction (h : MemoryHandle) (work : MemoryHandle → Caller ε ρ)
    (next : Outcome ρ → Caller ε ρ)

namespace Caller

variable {ε ρ : Type}

/-- What a task does. -/
def act : Caller ε ρ → Action (Memory × ε) ρ
  | done r => .done r
  | see next => .look fun s ↦ (next s.2).act
  | set e next => .look fun s ↦ .put (s.1, e) next.act
  | self next => .self fun i ↦ (next i).act
  | ends next => .ends fun es ↦ (next es).act
  | ask q _ next => .ask q fun r ↦ (next r).act
  | start work next =>
    Action.start (work.act.andThen fun r ↦ .done (r.map fun _ ↦ ())) >>= fun id ↦ (next id).act
  | store c next => c.act.andThen fun r ↦ (next r).act
  | call h c next => (c.act h).andThen fun r ↦ (next r).act
  | transaction h work next =>
    (Memory.transaction h fun scope ↦ (work scope).act).andThen fun r ↦ (next r).act

/-- What a task does that has nothing else to do. -/
def task (c : Caller ε ρ) : Action (Memory × ε) Unit :=
  c.act.andThen fun r ↦ .done (r.map fun _ ↦ ())

end Caller

/-! ## Who has the lock -/

namespace Memory

/-- A change of the memory by a task that has the lock in this mode or does not have it.  With the
lock, a task may begin a transaction, which has the lock from then on; with the transaction that has
not ended it gets the lock back. -/
inductive Passes : Memory → Option Mode → Memory → Option Mode → Prop
  | store {m : Memory} {held : Option Mode} (s : Store) :
    Passes m held { m with store := s } held
  | opened {m : Memory} (id : TaskId) : Passes m (some .write) (m.opened id) none
  | ended {m : Memory} {n : Nat} (h : m.isActive (.inScope n) = true) :
    Passes m none (m.ended n) (some .write)

theorem Passes.refl (m : Memory) (held : Option Mode) : Passes m held m held := .store m.store

end Memory

namespace Action

variable {ε α β : Type}

/-- Begun in this memory by a task that has the lock in mode `held`, the action changes the memory
and leaves the lock by the rules of transactions, waits for nothing while it has the lock, and has
it in mode `after` at its end.  What others do to the memory while it waits is unknown. -/
def Mindful (after : Option Mode) : Memory → Option Mode → Action (Memory × ε) α → Prop
  | _, held, done _ => held = after
  | _, held, exit _ => held = none
  | m, held, look next => ∀ e, Mindful after m held (next (m, e))
  | m, held, put s next => ∃ held', m.Passes held s.1 held' ∧ Mindful after s.1 held' next
  | m, held, self next => ∀ i, Mindful after m held (next i)
  | m, held, lock next => ∀ l, Mindful after m held (next l)
  | m, held, ends next => ∀ es, Mindful after m held (next es)
  | m, held, fork next => (∀ i, Mindful after m held (next (.own i))) ∧
    ∀ m' r, Mindful after m' none (next (.child r))
  | _, held, ask (.enter mode) next => held = none ∧ ∀ m',
    Mindful after m' (some mode) (next (.ok ())) ∧ ∀ f, Mindful after m' none (next (.error f))
  | _, held, ask (.leave mode) next => held = some mode ∧ ∀ m' r, Mindful after m' none (next r)
  | _, _, ask (.letGo _) _ => False
  | _, held, ask _ next => held = none ∧ ∀ m' r, Mindful after m' none (next r)

variable {after mid held : Option Mode} {m : Memory}

/-- What follows begins with what is held at the end of what comes before. -/
theorem Mindful.andThen {x : Action (Memory × ε) α} {k : Outcome α → Action (Memory × ε) β}
    (hx : x.Mindful mid m held) (hk : ∀ m' r, (k r).Mindful after m' mid) :
    (x.andThen k).Mindful after m held := by
  induction x generalizing m held with
  | done r =>
    cases hx
    exact hk m r
  | exit r => exact hx
  | look next ih => exact fun e ↦ ih _ (hx e)
  | put s next ih =>
    obtain ⟨held', hpasses, hnext⟩ := hx
    exact ⟨held', hpasses, ih hnext⟩
  | self next ih => exact fun i ↦ ih _ (hx i)
  | lock next ih => exact fun l ↦ ih _ (hx l)
  | ends next ih => exact fun es ↦ ih _ (hx es)
  | fork next ih => exact ⟨fun i ↦ ih _ (hx.1 i), fun m' r ↦ ih _ (hx.2 m' r)⟩
  | ask q next ih =>
    cases q with
    | enter mode => exact ⟨hx.1, fun m' ↦ ⟨ih _ (hx.2 m').1, fun f ↦ ih _ ((hx.2 m').2 f)⟩⟩
    | leave mode => exact ⟨hx.1, fun m' r ↦ ih _ (hx.2 m' r)⟩
    | letGo mode => exact hx
    | gate g => exact ⟨hx.1, fun m' r ↦ ih _ (hx.2 m' r)⟩
    | openGate g => exact ⟨hx.1, fun m' r ↦ ih _ (hx.2 m' r)⟩
    | cancel i => exact ⟨hx.1, fun m' r ↦ ih _ (hx.2 m' r)⟩
    | yield => exact ⟨hx.1, fun m' r ↦ ih _ (hx.2 m' r)⟩

/-- What goes on without the lock may go on with a result or with a fault. -/
theorem Mindful.bind {x : Action (Memory × ε) α} {f : α → Action (Memory × ε) β}
    (hx : x.Mindful none m held) (hf : ∀ m' a, (f a).Mindful none m' none) :
    (x >>= f).Mindful none m held := by
  refine hx.andThen fun m' r ↦ ?_
  cases r with
  | ok a => exact hf m' a
  | error e => rfl

theorem mindful_ask {q : Request} (free : q.isFree = true)
    {next : Outcome Unit → Action (Memory × ε) α} (h : ∀ m' r, (next r).Mindful after m' none) :
    (ask q next).Mindful after m none := by
  cases q with
  | enter mode => cases free
  | leave mode => cases free
  | letGo mode => cases free
  | gate g => exact ⟨rfl, h⟩
  | openGate g => exact ⟨rfl, h⟩
  | cancel i => exact ⟨rfl, h⟩
  | yield => exact ⟨rfl, h⟩

/-- A new task has nothing to leave. -/
theorem mindful_start {x : Action (Memory × ε) Unit} (h : ∀ m', x.Mindful none m' none) :
    (start x).Mindful none m none := by
  refine ⟨fun i ↦ rfl, fun m' r ↦ ?_⟩
  cases r with
  | ok _ => exact (h m').andThen fun _ _ ↦ rfl
  | error f => exact (rfl : (none : Option Mode) = none)

/-- What only has to do with the store may be done with the lock and with the transaction. -/
theorem mindful_onShared {f : Memory → Memory × Outcome α}
    (hf : ∀ m, ∃ s, (f m).1 = { m with store := s }) :
    (onShared f : Action (Memory × ε) α).Mindful held m held := by
  intro e
  obtain ⟨s, hs⟩ := hf m
  refine ⟨held, ?_, rfl⟩
  change m.Passes held (f m).1 held
  rw [hs]
  exact .store s

/-- The lock is left in the mode in which it is held. -/
theorem mindful_held {mode : Mode} {x : Action (Memory × ε) α}
    (hx : x.Mindful (some mode) m (some mode)) :
    (x.held mode (.ok ())).Mindful none m (some mode) := by
  refine hx.andThen fun m' r ↦ ⟨rfl, fun m'' told ↦ ?_⟩
  cases told <;> rfl

end Action

/-! ## Calls on handles -/

namespace Memory

variable {ε α : Type} {m : Memory}

theorem mindful_accessing {mode : Mode} {h : MemoryHandle} {x : Action (Memory × ε) α}
    (hx : ∀ m' held, x.Mindful held m' held) : (accessing mode h x).Mindful none m none := by
  cases h with
  | inScope n =>
    rw [accessing_inScope]
    intro e
    dsimp only
    split
    · exact hx m none
    · rfl
  | shared =>
    rw [accessing_shared]
    intro e i
    dsimp only
    split
    · rfl
    · exact ⟨rfl, fun m' ↦ ⟨Action.mindful_held (hx m' _), fun f ↦ rfl⟩⟩

/-- A transaction that is begun has the lock from then on. -/
theorem mindful_begun (id : TaskId) :
    (begun id (.ok ()) : Action (Memory × ε) MemoryHandle).Mindful none m (some .write) :=
  fun _ _ ↦ ⟨none, .opened id, rfl⟩

theorem mindful_openScope (h : MemoryHandle) :
    (openScope h : Action (Memory × ε) MemoryHandle).Mindful none m none := by
  cases h with
  | inScope n =>
    rw [openScope_inScope]
    intro e
    dsimp only
    split
    · exact fun i ↦ rfl
    · rfl
  | shared =>
    rw [openScope_shared]
    intro e i
    dsimp only
    split
    · rfl
    · exact ⟨rfl, fun m' ↦ ⟨mindful_begun i, fun f ↦ rfl⟩⟩

/-- To end a transaction that has not ended gives the lock back, which is then left. -/
theorem mindful_close {n : Nat} (h : m.isActive (.inScope n) = true) :
    (close n : Action (Memory × ε) Unit).Mindful none m none :=
  fun _ ↦ ⟨some .write, .ended h, rfl, fun _ _ ↦ rfl⟩

theorem mindful_commit (h : MemoryHandle) :
    (commit h : Action (Memory × ε) Unit).Mindful none m none := by
  intro e
  change (if !m.isActive h then throw _ >>= _ else _ : Action (Memory × ε) Unit).Mindful _ _ _
  cases hactive : m.isActive h with
  | false => exact (rfl : (none : Option Mode) = none)
  | true =>
    cases h with
    | shared => cases hactive
    | inScope n => exact mindful_close hactive

theorem mindful_rollback (h : MemoryHandle) :
    (rollback h : Action (Memory × ε) Unit).Mindful none m none := by
  intro e
  change (if m.isActive h then _ else _ : Action (Memory × ε) Unit).Mindful _ _ _
  cases hactive : m.isActive h with
  | false => exact (rfl : (none : Option Mode) = none)
  | true =>
    cases h with
    | shared => cases hactive
    | inScope n =>
      have hrestored : (m.restored n).isActive (.inScope n) = true :=
        isActive_restored.trans hactive
      refine fun e' ↦ ⟨none, ?_, mindful_close hrestored⟩
      change m.Passes none (m.restored n) none
      rw [restored]
      split
      · exact .store _
      · exact .refl m none

theorem mindful_conclude (scope : MemoryHandle) (r : Outcome α) :
    (conclude scope r : Action (Memory × ε) α).Mindful none m none := by
  cases r with
  | ok a => exact (mindful_commit scope).bind fun _ _ ↦ rfl
  | error f => exact (mindful_rollback scope).bind fun _ _ ↦ rfl

theorem mindful_transaction (h : MemoryHandle) {work : MemoryHandle → Action (Memory × ε) α}
    (hwork : ∀ scope m', (work scope).Mindful none m' none) :
    (transaction h work).Mindful none m none := by
  rw [transaction_eq]
  refine (mindful_openScope h).bind fun m' scope ↦ ?_
  exact (hwork scope m').andThen fun m'' r ↦ mindful_conclude scope r

end Memory

theorem Verb.mindful_call {ε : Type} {m : Memory} (v : Verb) (h : MemoryHandle) :
    (v.call h : Action (Memory × ε) Verb.Reply).Mindful none m none := by
  have hbody (m' : Memory) (held : Option Mode) :
      (v.body : Action (Memory × ε) Verb.Reply).Mindful held m' held :=
    Action.mindful_onShared fun m' ↦ ⟨_, rfl⟩
  have haccess : (Memory.accessing v.mode h v.body :
      Action (Memory × ε) Verb.Reply).Mindful none m none := Memory.mindful_accessing hbody
  rw [Verb.call_eq]
  cases v with
  | fetch src q locked =>
    intro e
    dsimp only
    split
    · rfl
    · exact haccess
  | _ =>
    dsimp only
    split
    · rfl
    · exact haccess

theorem HandleCall.mindful_act {ε : Type} {m : Memory} (c : HandleCall) (h : MemoryHandle) :
    (c.act h : Action (Memory × ε) HandleCall.Reply).Mindful none m none := by
  cases c with
  | verb v => exact (v.mindful_call h).bind fun _ _ ↦ rfl
  | inTransaction => exact fun e ↦ rfl
  | openScope => exact (Memory.mindful_openScope h).bind fun _ _ ↦ rfl
  | commit => exact (Memory.mindful_commit h).bind fun _ _ ↦ rfl
  | rollback => exact (Memory.mindful_rollback h).bind fun _ _ ↦ rfl

namespace Caller

variable {ε ρ : Type}

/-- Whatever handles a task uses, and however often: it changes the memory and leaves the lock by
the rules of transactions. -/
theorem mindful_act (c : Caller ε ρ) (m : Memory) : c.act.Mindful none m none := by
  induction c generalizing m with
  | done r => rfl
  | see next ih => exact fun e ↦ ih e m
  | set e next ih => exact fun _ ↦ ⟨none, .refl m none, ih m⟩
  | self next ih => exact fun i ↦ ih i m
  | ends next ih => exact fun es ↦ ih es m
  | ask q free next ih => exact Action.mindful_ask free fun m' r ↦ ih r m'
  | start work next ihwork ih =>
    refine (Action.mindful_start fun m' ↦ ?_).bind fun m' id ↦ ih id m'
    exact (ihwork m').andThen fun _ _ ↦ rfl
  | store c next ih =>
    exact (Action.mindful_onShared fun m' ↦ ⟨_, rfl⟩).andThen fun m' r ↦ ih r m'
  | call h c next ih => exact (c.mindful_act h).andThen fun m' r ↦ ih r m'
  | transaction h work next ihwork ih =>
    exact (Memory.mindful_transaction h fun scope m' ↦ ihwork scope m').andThen
      fun m' r ↦ ih r m'

theorem mindful_task (c : Caller ε ρ) (m : Memory) : c.task.Mindful none m none :=
  (c.mindful_act m).andThen fun _ _ ↦ rfl

end Caller

end RecordStore
