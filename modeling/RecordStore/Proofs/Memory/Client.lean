import RecordStore.Memory.Handle
import RecordStore.Task.World

/-!
# Clients of the in-memory store

A `Client` is what a task does that reaches the documents only through the handle it is given.  It
makes calls one after another, each of which may depend on all that came before, waits for other
things in between, and does work in transactions, where it is given the scoped handle and nothing
else.

* `Verb.run` is what a call does to the store, and `Verb.call` is the call through a handle.
* `Client.act` is the client as an action of a task.
* `World.advance_call` and what follows it tell what a call comes to.
-/

namespace RecordStore

/-- What can be asked of the documents. -/
inductive Verb where
  | fetch (src : Source) (q : Query) (locked : Bool)
  | any (src : Source) (f : Filter)
  | count (src : Source) (f : Option Filter)
  | insert (src : Source) (r : Record)
  | update (src : Source) (f : Filter) (r : Record)
  | delete (src : Source) (f : Filter)
  | execute (ws : List WriteStatement)

/-- What is answered. -/
inductive Verb.Reply where
  | records (rs : List Record)
  | truth (b : Bool)
  | number (n : Int)
  | nothing

namespace Verb

variable {ε : Type}

/-- How a call holds the lock. -/
def mode : Verb → Mode
  | fetch _ _ _ | any _ _ | count _ _ => .read
  | _ => .write

/-- The answer that a call has without a look at the documents, if it has one; `active` is whether
its handle is scoped to a transaction that has not ended. -/
def early? (active : Bool) : Verb → Option (Outcome Verb.Reply)
  | fetch _ _ locked =>
    if locked && !active then some (.error (.noTransaction "get_for_update")) else none
  | execute ws =>
    if ws.isEmpty then some (.ok .nothing)
    else if ws.any Store.isRaw then some (.error (.usage .rawSql))
    else none
  | _ => none

/-- The effect of a write, which answers nothing. -/
def replied (e : Store.Effect) : Store × Outcome Verb.Reply := (e.1, e.2.map fun _ ↦ .nothing)

/-- What a call does to the store, and what it answers. -/
def run : Verb → Store → Store × Outcome Verb.Reply
  | fetch src q _, s => (s, (do q.run? (← s.sourceRecords? src)).map .records)
  | any src f, s => (s, (do Memory.anyMatch? f (← s.sourceRecords? src)).map .truth)
  | count src f, s =>
    let n : Outcome Int := do return (← Filter.select? f (← s.sourceRecords? src)).length
    (s, n.map .number)
  | insert src r, s => replied ((s.declare src).insert src.table r)
  | update src f r, s =>
    replied ((s.declare src).effect ((s.declare src).update? src.table f r.values))
  | delete src f, s => replied ((s.declare src).effect ((s.declare src).delete? src.table f))
  | execute ws, s => replied (s.batch ws)

/-- The call through a handle. -/
def call (h : MemoryHandle) : Verb → Action (Memory × ε) Verb.Reply
  | fetch src q locked => do return .records (← Memory.fetch h src q locked)
  | any src f => do return .truth (← Memory.any h src f)
  | count src f => do return .number (← Memory.count h src f)
  | insert src r => do
    Memory.insert h src r
    return .nothing
  | update src f r => do
    Memory.update h src f r
    return .nothing
  | delete src f => do
    Memory.delete h src f
    return .nothing
  | execute ws => do
    Memory.execute h ws
    return .nothing

/-- What a call does once it may look at the documents. -/
def body (v : Verb) : Action (Memory × ε) Verb.Reply :=
  Action.onShared fun m ↦ ({ m with store := (v.run m.store).1 }, (v.run m.store).2)

end Verb

namespace Request

/-- Has the request nothing to do with the lock? -/
def isFree : Request → Bool
  | enter _ | leave _ | letGo _ => false
  | _ => true

end Request

/-- What a task does with a handle.  `ε` is what tasks have in common beside the documents, and `ρ`
is what work results in. -/
inductive Client (ε ρ : Type) where
  | done (r : Outcome ρ)
  | see (next : ε → Client ε ρ)
  | set (e : ε) (next : Client ε ρ)
  /-- Waits for something, or lets others go on. -/
  | ask (q : Request) (free : q.isFree = true) (next : Outcome Unit → Client ε ρ)
  | call (v : Verb) (next : Outcome Verb.Reply → Client ε ρ)
  | commit (next : Outcome Unit → Client ε ρ)
  | rollback (next : Outcome Unit → Client ε ρ)
  | transaction (work : Client ε ρ) (next : Outcome ρ → Client ε ρ)

namespace Memory

variable {ε α : Type}

/-- The end of a transaction after its work: kept if the work has succeeded, else undone. -/
def conclude (scope : MemoryHandle) : Outcome α → Action (Memory × ε) α
  | .ok a => do
    commit scope
    return a
  | .error f => do
    rollback scope
    throw f

/-- The beginning of a transaction by a task that has the lock, or the fault with which it did not
get it. -/
def begun (id : TaskId) : Outcome Unit → Action (Memory × ε) MemoryHandle
  | .ok _ => do
    let n := (← Action.shared).scopes.length
    Action.modifyShared (·.opened id)
    return .inScope n
  | .error f => Action.fail f

end Memory

namespace Client

variable {ε ρ : Type}

/-- What a task does, through a handle. -/
def act : Client ε ρ → MemoryHandle → Action (Memory × ε) ρ
  | done r, _ => .done r
  | see next, h => .look fun s ↦ (next s.2).act h
  | set e next, h => .look fun s ↦ .put (s.1, e) (next.act h)
  | ask q _ next, h => .ask q fun r ↦ (next r).act h
  | call v next, h => (v.call h).andThen fun r ↦ (next r).act h
  | commit next, h => (Memory.commit h).andThen fun r ↦ (next r).act h
  | rollback next, h => (Memory.rollback h).andThen fun r ↦ (next r).act h
  | transaction work next, h =>
    (Memory.transaction h fun scope ↦ work.act scope).andThen fun r ↦ (next r).act h

/-- What a task does that is given the shared handle. -/
def task (c : Client ε ρ) : Action (Memory × ε) Unit :=
  (c.act .shared).andThen fun r ↦ .done (r.map fun _ ↦ ())

end Client

namespace Action

variable {σ ε α β : Type}

/-- What is done with the lock, or the fault with which it was not got. -/
def held (m : Mode) (x : Action σ α) : Outcome Unit → Action σ α
  | .ok _ => x.ensuring (request (.leave m))
  | .error f => fail f

theorem holding_eq (m : Mode) (x : Action σ α) : holding m x = ask (.enter m) (held m x) := by
  rw [holding, request]
  change ask _ _ = ask _ _
  congr 1
  funext r
  cases r <;> rfl

/-- What is made of the result of an action may be made before the lock is left. -/
theorem held_bind (m : Mode) (x : Action σ α) (f : α → Outcome β) (r : Outcome Unit) :
    (held m x r >>= fun a ↦ done (f a)) = held m (x >>= fun a ↦ done (f a)) r := by
  cases r with
  | error f => rfl
  | ok _ =>
    change (andThen x _).andThen _ = (andThen x _).andThen _
    rw [andThen_assoc, andThen_assoc]
    congr 1
    funext a
    change ask _ _ = andThen _ _
    cases a <;> refine congrArg (ask _) (funext fun told ↦ ?_) <;> cases told <;> rfl

theorem look_bind (f : σ → Action σ α) (k : α → Action σ β) :
    (look f >>= k) = look fun s ↦ f s >>= k := rfl

theorem put_bind (s : σ) (x : Action σ α) (k : α → Action σ β) :
    (put s x >>= k) = put s (x >>= k) := rfl

theorem done_bind (r : Outcome α) (f : α → Outcome β) :
    (done r >>= fun a ↦ done (f a) : Action σ β) = done (r.bind f) := by
  cases r <;> rfl

theorem self_bind (f : TaskId → Action σ α) (k : α → Action σ β) :
    (self f >>= k) = self fun i ↦ f i >>= k := rfl

theorem ask_bind (q : Request) (f : Outcome Unit → Action σ α) (k : α → Action σ β) :
    (ask q f >>= k) = ask q fun r ↦ f r >>= k := rfl

theorem shared_bind (k : Memory → Action (Memory × ε) α) :
    (shared >>= k) = look fun s ↦ k s.1 := rfl

theorem throw_bind (f : Fault) (k : β → Action σ α) : (throw f >>= k) = fail f := rfl

end Action

namespace Memory

variable {ε α β : Type}

/-- A scoped handle works without the lock, as long as its transaction has not ended. -/
theorem accessing_inScope (m : Mode) (n : Nat) (x : Action (Memory × ε) α) :
    accessing m (.inScope n) x = .look fun s ↦
      if s.1.isActive (.inScope n) then x else .fail (.usage .endedHandle) := by
  rw [accessing, Action.shared_bind]
  congr 1
  funext s
  cases hs : s.1.isActive (.inScope n) <;> simp [isUsable, hs, Action.throw_bind]

/-- A task that is in a transaction may not use the shared handle; any other one takes the lock. -/
theorem accessing_shared (m : Mode) (x : Action (Memory × ε) α) :
    accessing m .shared x = .look fun s ↦ .self fun i ↦
      if s.1.ownsLock i then .fail (.usage .sharedHandle) else .ask (.enter m) (x.held m) := by
  rw [accessing, Action.holding_eq, Action.shared_bind]
  rfl

/-- What is made of the result of an access may be made inside it. -/
theorem accessing_bind (m : Mode) (h : MemoryHandle) (x : Action (Memory × ε) α)
    (f : α → Outcome β) :
    (accessing m h x >>= fun a ↦ .done (f a)) = accessing m h (x >>= fun a ↦ .done (f a)) := by
  cases h with
  | inScope n =>
    rw [accessing_inScope, accessing_inScope, Action.look_bind]
    congr 1
    funext s
    split <;> rfl
  | shared =>
    rw [accessing_shared, accessing_shared, Action.look_bind]
    congr 1
    funext s
    rw [Action.self_bind]
    congr 1
    funext i
    split
    · rfl
    · rw [Action.ask_bind]
      exact congrArg (Action.ask _) (funext fun r ↦ Action.held_bind m x f r)

theorem onShared_bind (f : Memory → Memory × Outcome α) (g : α → Outcome β) :
    (Action.onShared f >>= fun a ↦ .done (g a)) =
      (Action.onShared fun m ↦ ((f m).1, (f m).2.bind g) : Action (Memory × ε) β) := by
  rw [Action.onShared, Action.look_bind]
  congr 1
  funext s
  rw [Action.put_bind, Action.done_bind]

/-- What is made of what was read may be made while reading. -/
theorem reading_bind (h : MemoryHandle) (f : Store → Outcome α) (g : α → Outcome β) :
    (reading h f >>= fun a ↦ .done (g a) : Action (Memory × ε) β) =
      reading h fun s ↦ (f s).bind g := by
  rw [reading, accessing_bind, onShared_bind]
  rfl

/-- Records are read; only in a transaction can they be locked. -/
theorem fetch_eq (h : MemoryHandle) (src : Source) (q : Query) (locked : Bool) :
    (fetch h src q locked : Action (Memory × ε) _) = .look fun s ↦
      if locked && !s.1.isActive h then .fail (.noTransaction "get_for_update")
      else reading h (fun s ↦ do q.run? (← s.sourceRecords? src)) := by
  refine congrArg Action.look (funext fun s ↦ ?_)
  change (if locked && !s.1.isActive h then throw _ >>= _ else _) = _
  split <;> rfl

end Memory

namespace Verb

variable {ε : Type}

/-- A call looks at the documents by the rule of all accesses, unless it has an early answer. -/
theorem call_eq (v : Verb) (h : MemoryHandle) :
    (v.call h : Action (Memory × ε) Verb.Reply) = match v with
      | fetch _ _ _ => .look fun s ↦ match v.early? (s.1.isActive h) with
        | some r => .done r
        | none => Memory.accessing v.mode h v.body
      | _ => match v.early? false with
        | some r => .done r
        | none => Memory.accessing v.mode h v.body := by
  cases v with
  | fetch src q locked =>
    change (Memory.fetch h src q locked >>= fun rs ↦ .done (.ok (Verb.Reply.records rs))) = _
    have hread : (Memory.reading h (fun s ↦ do q.run? (← s.sourceRecords? src)) >>= fun rs ↦
        .done (.ok (Verb.Reply.records rs))) =
          (Memory.accessing .read h (body (fetch src q locked)) :
            Action (Memory × ε) Verb.Reply) := by
      rw [Memory.reading_bind]
      rfl
    rw [Memory.fetch_eq, Action.look_bind]
    refine congrArg Action.look (funext fun s ↦ ?_)
    rw [early?]
    split
    · rfl
    · exact hread
  | execute ws =>
    change (Memory.execute h ws >>= fun _ ↦ .done (.ok Verb.Reply.nothing)) = _
    rw [Memory.execute, early?]
    by_cases hempty : ws.isEmpty = true
    · simp only [hempty, if_true]
      rfl
    · by_cases hraw : ws.any Store.isRaw = true
      · simp only [hempty, hraw, if_true, Store.refuseRaw?]
        rfl
      · simp only [hempty, hraw, Store.refuseRaw?]
        change (Memory.accessing _ h _ >>= fun _ ↦ .done (.ok Verb.Reply.nothing)) = _
        rw [Memory.accessing_bind, Memory.onShared_bind]
        rfl
  | any src f =>
    change (Memory.accessing _ h _ >>= fun b ↦ .done (.ok (Verb.Reply.truth b))) = _
    rw [Memory.accessing_bind, Memory.onShared_bind]
    rfl
  | count src f =>
    change (Memory.accessing _ h _ >>= fun b ↦ .done (.ok (Verb.Reply.number b))) = _
    rw [Memory.accessing_bind, Memory.onShared_bind]
    rfl
  | insert src r =>
    change (Memory.accessing _ h _ >>= fun _ ↦ .done (.ok Verb.Reply.nothing)) = _
    rw [Memory.accessing_bind, Memory.onShared_bind]
    rfl
  | update src f r =>
    change (Memory.accessing _ h _ >>= fun _ ↦ .done (.ok Verb.Reply.nothing)) = _
    rw [Memory.accessing_bind, Memory.onShared_bind]
    rfl
  | delete src f =>
    change (Memory.accessing _ h _ >>= fun _ ↦ .done (.ok Verb.Reply.nothing)) = _
    rw [Memory.accessing_bind, Memory.onShared_bind]
    rfl

end Verb

namespace Memory

variable {ε α β : Type}

theorem transaction_eq (h : MemoryHandle) (work : MemoryHandle → Action (Memory × ε) α) :
    transaction h work = (openScope h >>= fun scope ↦ (work scope).andThen (conclude scope)) := by
  rw [transaction]
  rfl

/-- In a transaction no other one can be begun. -/
theorem openScope_inScope (n : Nat) : (openScope (.inScope n) : Action (Memory × ε) _) =
    .look fun s ↦ if s.1.isActive (.inScope n) then .self fun _ ↦ .fail .nestedTransaction
      else .fail (.usage .endedHandle) := by
  rw [openScope, Action.shared_bind]
  congr 1
  funext s
  cases hs : s.1.isActive (.inScope n) with
  | false => simp [isUsable, hs, Action.throw_bind]
  | true =>
    simp [isUsable, hs]
    rfl

theorem openScope_shared : (openScope .shared : Action (Memory × ε) _) =
    .look fun s ↦ .self fun i ↦
      if s.1.ownsLock i then .fail .nestedTransaction else .ask (.enter .write) (begun i) := by
  rw [openScope, Action.shared_bind]
  congr 1
  funext s
  rw [isUsable, if_neg (by simp)]
  change Action.self _ = Action.self _
  congr 1
  funext i
  change (if s.1.ownsLock i then throw _ >>= _ else _) = _
  split
  · rfl
  · refine congrArg (Action.ask _) (funext fun r ↦ ?_)
    cases r <;> rfl

end Memory

namespace World

variable {ε α : Type} {w : World (Memory × ε)} {id : TaskId} {n : Nat} {v : Verb}

/-- What is in the memory. -/
def memory (w : World (Memory × ε)) : Memory := w.state.1

/-- The world with another memory. -/
def withMemory (w : World (Memory × ε)) (m : Memory) : World (Memory × ε) :=
  { w with state := (m, w.state.2) }

/-- The world with other documents. -/
def withStore (w : World (Memory × ε)) (s : Store) : World (Memory × ε) :=
  w.withMemory { w.memory with store := s }

/-- The world with a job that leaves the lock for a task. -/
def leaving {σ : Type} (w : World σ) (id : TaskId) (m : Mode) : World σ :=
  { w.push (.release id m w.tickets) with tickets := w.tickets + 1 }

/-- An access through a scoped handle. -/
theorem advance_accessing_inScope (m : Mode) (x : Action (Memory × ε) α)
    (k : Outcome α → Action (Memory × ε) Unit) :
    w.advance id ((Memory.accessing m (.inScope n) x).andThen k) =
      if w.memory.isActive (.inScope n) then w.advance id (x.andThen k)
      else w.advance id (k (.error (.usage .endedHandle))) := by
  rw [Memory.accessing_inScope]
  change w.advance id (Action.andThen (if w.memory.isActive (.inScope n) then _ else _) k) = _
  split <;> rfl

/-- An access through the shared handle, up to where it has the lock. -/
theorem advance_accessing_shared (m : Mode) (x : Action (Memory × ε) α)
    (k : Outcome α → Action (Memory × ε) Unit) :
    w.advance id ((Memory.accessing m .shared x).andThen k) =
      if w.memory.ownsLock id then w.advance id (k (.error (.usage .sharedHandle)))
      else w.advance id (.ask (.enter m) fun r ↦ (x.held m r).andThen k) := by
  rw [Memory.accessing_shared]
  change w.advance id (Action.andThen (if w.memory.ownsLock id then _ else _) k) = _
  split <;> rfl

theorem advance_call (h : MemoryHandle) (k : Outcome Verb.Reply → Action (Memory × ε) Unit) :
    w.advance id ((v.call h).andThen k) = match v.early? (w.memory.isActive h) with
      | some r => w.advance id (k r)
      | none => w.advance id ((Memory.accessing v.mode h v.body).andThen k) := by
  rw [Verb.call_eq]
  cases v with
  | fetch src q locked =>
    change w.advance id (Action.andThen (match Verb.early? (w.memory.isActive h) _ with
      | some r => .done r
      | none => _) k) = _
    split <;> rfl
  | execute ws =>
    simp only [Verb.early?]
    split <;> rfl
  | _ => rfl

/-- A call through a scoped handle. -/
theorem advance_call_inScope (k : Outcome Verb.Reply → Action (Memory × ε) Unit) :
    w.advance id ((v.call (.inScope n)).andThen k) =
      match v.early? (w.memory.isActive (.inScope n)) with
      | some r => w.advance id (k r)
      | none =>
        if w.memory.isActive (.inScope n) then
          (w.withStore (v.run w.memory.store).1).advance id (k (v.run w.memory.store).2)
        else w.advance id (k (.error (.usage .endedHandle))) := by
  rw [advance_call]
  split
  · rfl
  · exact advance_accessing_inScope v.mode v.body k

/-- A call through the shared handle, up to where it has the lock. -/
theorem advance_call_shared (k : Outcome Verb.Reply → Action (Memory × ε) Unit) :
    w.advance id ((v.call .shared).andThen k) = match v.early? false with
      | some r => w.advance id (k r)
      | none =>
        if w.memory.ownsLock id then w.advance id (k (.error (.usage .sharedHandle)))
        else w.advance id (.ask (.enter v.mode) fun r ↦ (v.body.held v.mode r).andThen k) := by
  rw [advance_call]
  change (match v.early? false with
    | some r => _
    | none => _) = _
  split
  · rfl
  · exact advance_accessing_shared v.mode v.body k

/-- A task that has the lock does with the memory what it has to, and then leaves the lock. -/
theorem advance_held_onShared (m : Mode) (f : Memory → Memory × Outcome α)
    (k : Outcome α → Action (Memory × ε) Unit) :
    w.advance id (((Action.onShared f).held m (.ok ())).andThen k) =
      ((w.withMemory (f w.memory).1).leaving id m).mark id
        (.paused (some w.tickets) fun told ↦ k (told.bind fun _ ↦ (f w.memory).2)) := by
  have hnext (r : Outcome α) : (fun told ↦ (Action.andThen
      ((Action.done told).bind fun _ ↦ Action.done r) k)) =
        fun told : Outcome Unit ↦ k (told.bind fun _ ↦ r) := by
    funext told
    cases told <;> rfl
  rw [← hnext]
  rfl

/-- A call that has the lock looks at the documents at once, and then leaves the lock. -/
theorem advance_held (m : Mode) (k : Outcome Verb.Reply → Action (Memory × ε) Unit) :
    w.advance id ((v.body.held m (.ok ())).andThen k) =
      ((w.withStore (v.run w.memory.store).1).leaving id m).mark id
        (.paused (some w.tickets) fun told ↦ k (told.bind fun _ ↦ (v.run w.memory.store).2)) :=
  advance_held_onShared m _ k

theorem advance_close (k : Outcome Unit → Action (Memory × ε) Unit) :
    w.advance id ((Memory.close n).andThen k) =
      ((w.withMemory (w.memory.ended n)).leaving id .write).mark id
        (.paused (some w.tickets) k) := rfl

theorem advance_commit_inScope (k : Outcome Unit → Action (Memory × ε) Unit) :
    w.advance id ((Memory.commit (.inScope n)).andThen k) =
      if w.memory.isActive (.inScope n) then w.advance id ((Memory.close n).andThen k)
      else w.advance id (k (.error (.noTransaction "commit"))) := by
  change w.advance id (Action.andThen
    (if !w.memory.isActive (.inScope n) then throw _ >>= _ else _) k) = _
  cases w.memory.isActive (.inScope n) <;> rfl

theorem advance_rollback_inScope (k : Outcome Unit → Action (Memory × ε) Unit) :
    w.advance id ((Memory.rollback (.inScope n)).andThen k) =
      if w.memory.isActive (.inScope n) then
        (w.withMemory (w.memory.restored n)).advance id ((Memory.close n).andThen k)
      else w.advance id (k (.ok ())) := by
  change w.advance id (Action.andThen (if w.memory.isActive (.inScope n) then _ else _) k) = _
  cases w.memory.isActive (.inScope n) <;> rfl

/-- Work that has come to an end in a transaction that has not: it is kept or undone. -/
theorem advance_conclude (r : Outcome α) (k : Outcome α → Action (Memory × ε) Unit) :
    w.advance id ((Memory.conclude (.inScope n) r).andThen k) =
      if w.memory.isActive (.inScope n) then
        match r with
        | .ok _ => w.advance id ((Memory.close n).andThen fun told ↦ k (told.bind fun _ ↦ r))
        | .error _ => (w.withMemory (w.memory.restored n)).advance id
          ((Memory.close n).andThen fun told ↦ k (told.bind fun _ ↦ r))
      else w.advance id (k (r.bind fun _ ↦ .error (.noTransaction "commit"))) := by
  cases r with
  | ok a =>
    have hcommit : (Memory.conclude (.inScope n) (.ok a)).andThen k =
        (Memory.commit (.inScope n)).andThen fun told ↦ k (told.bind fun _ ↦ .ok a) := by
      change (Action.andThen (Memory.commit _) _).andThen k = _
      rw [Action.andThen_assoc]
      congr 1
      funext told
      cases told <;> rfl
    rw [hcommit, advance_commit_inScope]
    rfl
  | error f =>
    have hrollback : (Memory.conclude (.inScope n) (.error f)).andThen k =
        (Memory.rollback (.inScope n)).andThen fun told ↦ k (told.bind fun _ ↦ .error f) := by
      change (Action.andThen (Memory.rollback _) _).andThen k = _
      rw [Action.andThen_assoc]
      congr 1
      funext told
      cases told <;> rfl
    rw [hrollback, advance_rollback_inScope]
    rfl

theorem advance_transaction_inScope (work : MemoryHandle → Action (Memory × ε) α)
    (k : Outcome α → Action (Memory × ε) Unit) :
    w.advance id ((Memory.transaction (.inScope n) work).andThen k) =
      if w.memory.isActive (.inScope n) then w.advance id (k (.error .nestedTransaction))
      else w.advance id (k (.error (.usage .endedHandle))) := by
  rw [Memory.transaction_eq, Memory.openScope_inScope]
  change w.advance id (Action.andThen (Action.bind
    (if w.memory.isActive (.inScope n) then _ else _) _) k) = _
  split <;> rfl

/-- A transaction, up to where it has the lock. -/
theorem advance_transaction_shared (work : MemoryHandle → Action (Memory × ε) α)
    (k : Outcome α → Action (Memory × ε) Unit) :
    w.advance id ((Memory.transaction .shared work).andThen k) =
      if w.memory.ownsLock id then w.advance id (k (.error .nestedTransaction))
      else w.advance id (.ask (.enter .write) fun told ↦ (Memory.begun id told >>= fun scope ↦
        (work scope).andThen (Memory.conclude scope)).andThen k) := by
  rw [Memory.transaction_eq, Memory.openScope_shared]
  change w.advance id (Action.andThen (Action.bind (if w.memory.ownsLock id then _ else _) _) k) = _
  split <;> rfl

theorem advance_begun (f : MemoryHandle → Action (Memory × ε) α)
    (k : Outcome α → Action (Memory × ε) Unit) :
    w.advance id ((Memory.begun id (.ok ()) >>= f).andThen k) =
      (w.withMemory (w.memory.opened id)).advance id
        ((f (.inScope w.memory.scopes.length)).andThen k) := rfl

end World

end RecordStore
