import RecordStore.Proofs.Memory.Courtesy

/-!
# No task waits for its own transaction

As long as a transaction has not ended, the task that has begun it is the owner of the store.  So it
does not wait for the lock, which it could only get back from itself: whatever it asks of a shared
handle is refused at once and changes nothing, and whatever it asks of the handle of the transaction
is done without the lock.

* `Caller.within` is a unit of work as a caller, by `Caller.act_within`; a `Caller` has the two
  other ways into a transaction of itself.
* `Machine.HasBegun` says that a task has begun a transaction in a run of any tasks.
* `Machine.HasBegun.never_waits` is the statement above.
-/

namespace RecordStore

/-! ## Units of work -/

namespace Caller

variable {ε ρ : Type} {u : UnitOfWork MemoryHandle}

/-- Goes on with what a caller comes to. -/
def andThen : Caller ε ρ → (Outcome ρ → Caller ε ρ) → Caller ε ρ
  | done r, k => k r
  | see next, k => see fun e ↦ (next e).andThen k
  | set e next, k => set e (next.andThen k)
  | self next, k => self fun i ↦ (next i).andThen k
  | ends next, k => ends fun es ↦ (next es).andThen k
  | ask q free next, k => ask q free fun r ↦ (next r).andThen k
  | start work next, k => start work fun id ↦ (next id).andThen k
  | store c next, k => store c fun r ↦ (next r).andThen k
  | call h c next, k => call h c fun r ↦ (next r).andThen k
  | transaction h work next, k => transaction h work fun r ↦ (next r).andThen k

theorem act_andThen (c : Caller ε ρ) (k : Outcome ρ → Caller ε ρ) :
    (c.andThen k).act = c.act.andThen fun r ↦ (k r).act := by
  induction c with
  | done r => rfl
  | see next ih => exact congrArg Action.look (funext fun s ↦ ih s.2)
  | set e next ih => exact congrArg Action.look (funext fun s ↦ congrArg (Action.put _) ih)
  | self next ih => exact congrArg Action.self (funext ih)
  | ends next ih => exact congrArg Action.ends (funext ih)
  | ask q free next ih => exact congrArg (Action.ask q) (funext ih)
  | start work next ihwork ih =>
    refine congrArg Action.fork (funext fun side ↦ ?_)
    cases side with
    | own id => exact ih id
    | child r =>
      -- the new task ends before it gets to what follows here
      refine (Action.andThen_assoc _ _ _).trans (Eq.symm ?_)
      exact (Action.andThen_assoc _ _ _).trans (Action.andThen_assoc _ _ _)
  | store c next ih =>
    refine Eq.trans ?_ (Action.andThen_assoc _ _ _).symm
    exact congrArg (Action.andThen _) (funext ih)
  | call h c next ih =>
    refine Eq.trans ?_ (Action.andThen_assoc _ _ _).symm
    exact congrArg (Action.andThen _) (funext ih)
  | transaction h work next ihwork ih =>
    refine Eq.trans ?_ (Action.andThen_assoc _ _ _).symm
    exact congrArg (Action.andThen _) (funext ih)

/-- Asks whether a unit of work has a transaction under way. -/
def asking (u : UnitOfWork MemoryHandle) (next : Bool → Caller ε ρ) : Caller ε ρ :=
  match u.current with
  | none => next false
  | some h => call h .inTransaction fun
    | .ok (.truth b) => next b
    | _ => next false

/-- The question is always answered. -/
theorem isActive_andThen_congr {α : Type} {k k' : Outcome Bool → Action (Memory × ε) α}
    (h : ∀ b, k (.ok b) = k' (.ok b)) : u.isActive.andThen k = u.isActive.andThen k' := by
  obtain ⟨database, current⟩ := u
  cases current with
  | none => exact h false
  | some handle => exact congrArg Action.look (funext fun s ↦ h (s.1.isActive handle))

theorem act_asking (next : Bool → Caller ε ρ) :
    (asking u next).act = u.isActive >>= fun b ↦ (next b).act := by
  obtain ⟨database, current⟩ := u
  cases current <;> rfl

/-- Enters a unit of work. -/
def starting (u : UnitOfWork MemoryHandle)
    (next : Outcome (UnitOfWork MemoryHandle) → Caller ε ρ) : Caller ε ρ :=
  asking u fun
    | true => next (.error .nestedTransaction)
    | false => call u.database .openScope fun
      | .ok (.handle h) => next (.ok { u with current := some h })
      | .ok _ => next (.error .wrongType)
      | .error f => next (.error f)

theorem act_starting (next : Outcome (UnitOfWork MemoryHandle) → Caller ε ρ) :
    (starting u next).act = u.start.andThen fun r ↦ (next r).act := by
  rw [starting, act_asking, UnitOfWork.start, Action.bind_andThen]
  refine isActive_andThen_congr fun b ↦ ?_
  cases b with
  | true => rfl
  | false =>
    refine (Action.andThen_assoc _ _ _).trans ?_
    refine Eq.trans ?_ (Action.bind_andThen _ _ _).symm
    refine congrArg (Action.andThen _) (funext fun r ↦ ?_)
    cases r <;> rfl

/-- A call that answers nothing, and what follows it. -/
theorem act_call_nothing {h : MemoryHandle} {c : HandleCall} {x : Action (Memory × ε) Unit}
    (hx : c.act h = (do
      x
      return .nothing : Action (Memory × ε) HandleCall.Reply)) (next : Outcome Unit → Caller ε ρ) :
    (call h c fun r ↦ next (r.map fun _ ↦ ())).act = x.andThen fun r ↦ (next r).act := by
  refine (congrArg (Action.andThen · _) hx).trans ?_
  refine (Action.bind_andThen _ _ _).trans ?_
  refine congrArg (Action.andThen _) (funext fun r ↦ ?_)
  cases r <;> rfl

/-- Keeps what was done in a unit of work. -/
def committing (u : UnitOfWork MemoryHandle) (next : Outcome Unit → Caller ε ρ) : Caller ε ρ :=
  asking u fun b ↦ match u.current, b with
    | some h, true => call h .commit fun r ↦ next (r.map fun _ ↦ ())
    | _, _ => next (.error (.noTransaction "commit"))

theorem act_committing (next : Outcome Unit → Caller ε ρ) :
    (committing u next).act = u.commit.andThen fun r ↦ (next r).act := by
  rw [committing, act_asking, UnitOfWork.commit, Action.bind_andThen]
  refine isActive_andThen_congr fun b ↦ ?_
  obtain ⟨database, current⟩ := u
  cases current with
  | none => rfl
  | some h =>
    cases b with
    | false => rfl
    | true => exact act_call_nothing rfl next

/-- Undoes what was done in a unit of work. -/
def rollingBack (u : UnitOfWork MemoryHandle) (next : Outcome Unit → Caller ε ρ) : Caller ε ρ :=
  asking u fun b ↦ match u.current, b with
    | some h, true => call h .rollback fun r ↦ next (r.map fun _ ↦ ())
    | _, _ => next (.ok ())

theorem act_rollingBack (next : Outcome Unit → Caller ε ρ) :
    (rollingBack u next).act = u.rollback.andThen fun r ↦ (next r).act := by
  rw [rollingBack, act_asking, UnitOfWork.rollback, Action.bind_andThen]
  refine isActive_andThen_congr fun b ↦ ?_
  obtain ⟨database, current⟩ := u
  cases current with
  | none => rfl
  | some h =>
    cases b with
    | false => rfl
    | true => exact act_call_nothing rfl next

/-- Undoes what was done in a unit of work while a fault is on its way. -/
def undoing (u : UnitOfWork MemoryHandle) (f : Fault) (next : Outcome ρ → Caller ε ρ) :
    Caller ε ρ :=
  rollingBack u fun
    | .ok _ => next (.error f)
    | .error g => if g.isOrdinary then next (.error f) else next (.error g)

theorem act_undoing (f : Fault) (next : Outcome ρ → Caller ε ρ) :
    (undoing u f next).act = (UnitOfWork.quietly u.rollback >>= fun _ ↦
      (throw f : Action (Memory × ε) ρ)).andThen fun r ↦ (next r).act := by
  rw [undoing, act_rollingBack, Action.bind_andThen, UnitOfWork.quietly]
  refine Eq.trans ?_ (Action.andThen_assoc _ _ _).symm
  refine congrArg (Action.andThen _) (funext fun r ↦ ?_)
  cases r with
  | ok _ => rfl
  | error g =>
    change Caller.act (if g.isOrdinary then _ else _) =
      Action.andThen (if g.isOrdinary then pure () else throw g) _
    split <;> rfl

/-- Leaves a unit of work after what was done inside. -/
def leaving (u : UnitOfWork MemoryHandle) (r : Outcome ρ) (next : Outcome ρ → Caller ε ρ) :
    Caller ε ρ :=
  match r with
  | .ok a => committing u fun
    | .ok _ => next (.ok a)
    | .error f => if f.isOrdinary then undoing u f next else next (.error f)
  | .error f => undoing u f next

theorem act_leaving (r : Outcome ρ) (next : Outcome ρ → Caller ε ρ) :
    (leaving u r next).act = (u.leave r).andThen fun r ↦ (next r).act := by
  cases r with
  | error f => exact act_undoing f next
  | ok a =>
    rw [leaving, act_committing, UnitOfWork.leave]
    refine Eq.trans ?_ (Action.andThen_assoc _ _ _).symm
    refine congrArg (Action.andThen _) (funext fun r ↦ ?_)
    cases r with
    | ok _ => rfl
    | error f =>
      change Caller.act (if f.isOrdinary then _ else _) = _
      dsimp only
      split
      · exact act_undoing f next
      · rfl

/-- Does work inside a unit of work, with the scoped handle. -/
def within (u : UnitOfWork MemoryHandle) (work : MemoryHandle → Caller ε ρ)
    (next : Outcome ρ → Caller ε ρ) : Caller ε ρ :=
  starting u fun
    | .error f => next (.error f)
    | .ok u' => (asking u' fun b ↦ match u'.current, b with
        | some h, true => work h
        | _, _ => done (.error (.noTransaction "db"))).andThen fun r ↦ leaving u' r next

/-- A unit of work is one of the things that callers do. -/
theorem act_within (work : MemoryHandle → Caller ε ρ) (next : Outcome ρ → Caller ε ρ) :
    (within u work next).act =
      (u.within fun h ↦ (work h).act).andThen fun r ↦ (next r).act := by
  rw [within, act_starting, UnitOfWork.within, Action.bind_andThen]
  refine congrArg (Action.andThen _) (funext fun r ↦ ?_)
  cases r with
  | error f => rfl
  | ok u' =>
    dsimp only
    rw [act_andThen, act_asking]
    refine Eq.trans ?_ (Action.andThen_assoc _ _ _).symm
    have hleave : (fun r ↦ (leaving u' r next).act) =
        fun r ↦ (u'.leave r).andThen fun r ↦ (next r).act := funext fun r ↦ act_leaving r next
    rw [hleave]
    refine congrArg (Action.andThen · _) (Eq.trans ?_ (Action.bind_andThen _ _ _).symm)
    refine isActive_andThen_congr fun b ↦ ?_
    obtain ⟨database, current⟩ := u'
    cases current <;> cases b <;> rfl

end Caller

/-! ## The owner of a transaction that has not ended -/

namespace Memory

variable {m m' : Memory} {held held' : Option Mode} {i : TaskId} {n : Nat}

/-- Another transaction is begun only after this one, and the owner is given up only with it. -/
theorem Passes.owner (h : m.Passes held m' held') (hm : m.Exclusive)
    (hfree : held = some .write → m.owner = none) (hlt : n < m.scopes.length)
    (howner : m.isActive (.inScope n) = true → m.owner = some i)
    (hn : m'.isActive (.inScope n) = true) : m'.owner = some i := by
  cases h with
  | store s => exact howner hn
  | opened id =>
    have hactive := (isActive_opened.mp hn).resolve_left (Nat.ne_of_lt hlt)
    exact absurd (hfree rfl) (Option.isSome_iff_ne_none.mp (hm n hactive).1)
  | @ended k hk =>
    obtain ⟨hne, hactive⟩ := isActive_ended.mp hn
    exact absurd ((hm k hk).2 n hactive) hne

end Memory

namespace Machine

open World

variable {ε : Type} {M M' : Machine (Memory × ε)} {s : Store} {e : ε} {held : Option Mode}
  {id : TaskId} {n : Nat}

theorem Minds.owner_step {P : Action (Memory × ε) Unit → Prop} {grip : Option Grip}
    (hsound : Sound M) (h : Minds M held) (hlt : n < M.world.memory.scopes.length)
    (howner : M.world.memory.isActive (.inScope n) = true → M.world.memory.owner = some id)
    (hstep : Step P M grip M') (hn : M'.world.memory.isActive (.inScope n) = true) :
    M'.world.memory.owner = some id := by
  rcases hsound.state_step hstep with hstate | ⟨i, s, next, hturn, hstate⟩
  · rw [memory, hstate] at hn ⊢
    exact howner hn
  · obtain ⟨held', hpasses, -⟩ := h.busy _ hturn
    rw [memory, hstate] at hn ⊢
    exact hpasses.owner h.exclusive h.owner hlt howner hn

/-- Until a transaction ends, its owner stays. -/
theorem Minds.owner_leads (hsound : Sound M) (h : Minds M held)
    (hlt : n < M.world.memory.scopes.length) (howner : M.world.memory.owner = some id)
    (hleads : Leads IsCaller M M') (hn : M'.world.memory.isActive (.inScope n) = true) :
    M'.world.memory.owner = some id := by
  induction hleads with
  | refl => exact howner
  | tail hleads hstep ih =>
    obtain ⟨hsound', ⟨held', h'⟩, hlater⟩ := h.leads hsound hleads
    obtain ⟨grip, hstep⟩ := hstep
    exact h'.owner_step hsound' (Nat.lt_of_lt_of_le hlt hlater.length) ih hstep hn

/-- In a run of any tasks that has come to `M`, this task has begun the transaction of this
number. -/
def HasBegun (s : Store) (e : ε) (id : TaskId) (n : Nat) (M : Machine (Memory × ε)) : Prop :=
  ∃ (M₀ M₁ : Machine (Memory × ε)) (a : Action (Memory × ε) Unit) (grip : Option Grip),
    Leads IsCaller ⟨.ofState ({ store := s }, e), none⟩ M₀ ∧ M₀.turn = some (id, a) ∧
      Step IsCaller M₀ grip M₁ ∧ M₀.world.memory.scopes.length = n ∧
      n < M₁.world.memory.scopes.length ∧ Leads IsCaller M₁ M

/-- Who has begun a transaction that has not ended is the owner. -/
theorem HasBegun.owner (h : HasBegun s e id n M)
    (hn : M.world.memory.isActive (.inScope n) = true) : M.world.memory.owner = some id := by
  obtain ⟨M₀, M₁, a, grip, hbefore, hturn, hstep, rfl, hlt, hafter⟩ := h
  obtain ⟨hsound, ⟨held, hminds⟩, -⟩ := (minds_start s e).leads (sound_start _) hbefore
  have hcourteous := (courteous_start s e).leads (sound_start _) hbefore
  obtain ⟨held', hminds'⟩ := hminds.step hsound hstep
  refine hminds'.owner_leads (hsound.step hstep) hlt ?_ hafter hn
  rcases hsound.state_step hstep with hstate | ⟨i, s', next, hput, hstate⟩
  · rw [memory, memory, hstate] at hlt
    exact absurd hlt (Nat.lt_irrefl _)
  · subst hstate
    obtain ⟨rfl, -⟩ := Prod.mk.inj (Option.some.inj (hturn.symm.trans hput))
    exact (hcourteous.busy _ hput).1.opened hlt

theorem HasBegun.leads_start (h : HasBegun s e id n M) :
    Leads IsCaller ⟨.ofState ({ store := s }, e), none⟩ M := by
  obtain ⟨M₀, M₁, a, grip, hbefore, -, hstep, -, -, hafter⟩ := h
  exact (hbefore.trans hstep.leads).trans hafter

end Machine

/-! ## Calls of the owner -/

/-- A transaction of the shared handle, or a unit of work that begins its transactions through
it. -/
def Scoping.IsShared : Scoping → Prop
  | transaction => True
  | unitOfWork u => u.database = .shared

/-- What a call through the shared handle is told where its task is in a transaction. -/
def Verb.misuse : Verb → Fault
  | fetch _ _ true => .noTransaction "get_for_update"
  | execute ws => if ws.any Store.isRaw then .usage .rawSql else .usage .sharedHandle
  | _ => .usage .sharedHandle

theorem Verb.usage_misuse (v : Verb) : "UsageError" ∈ v.misuse.lineage := by
  unfold misuse
  split
  · decide
  · split <;> decide
  · decide

namespace World

variable {ε α : Type} {w : World (Memory × ε)} {id : TaskId} {n : Nat}

/-- Every call through the shared handle is refused to the owner, but for a batch of nothing. -/
theorem advance_call_owned (h : w.memory.ownsLock id = true) (v : Verb) (hv : v ≠ .execute [])
    (k : Outcome Verb.Reply → Action (Memory × ε) Unit) :
    w.advance id ((v.call .shared).andThen k) = w.advance id (k (.error v.misuse)) := by
  rw [advance_call_shared, if_pos h]
  cases v with
  | fetch src q locked => cases locked <;> rfl
  | execute ws =>
    cases ws with
    | nil => exact absurd rfl hv
    | cons st ws =>
      rw [Verb.early?, Verb.misuse]
      by_cases hraw : (st :: ws).any Store.isRaw = true
      · rw [if_pos hraw, if_pos hraw]
        rfl
      · rw [if_neg hraw, if_neg hraw]
        rfl
  | _ => rfl

theorem advance_openScope_owned (h : w.memory.ownsLock id = true)
    (k : Outcome MemoryHandle → Action (Memory × ε) Unit) :
    w.advance id ((Memory.openScope .shared).andThen k) =
      w.advance id (k (.error .nestedTransaction)) := by
  rw [Memory.openScope_shared]
  change w.advance id (Action.andThen (if w.memory.ownsLock id then _ else _) k) = _
  rw [if_pos h]
  rfl

/-- A unit of work that is in a transaction cannot be entered again. -/
theorem advance_start_active {u : UnitOfWork MemoryHandle} {h : MemoryHandle}
    (hcurrent : u.current = some h) (hactive : w.memory.isActive h = true)
    (k : Outcome (UnitOfWork MemoryHandle) → Action (Memory × ε) Unit) :
    w.advance id (u.start.andThen k) = w.advance id (k (.error .nestedTransaction)) := by
  obtain ⟨database, current⟩ := u
  obtain rfl : current = some h := hcurrent
  refine (advance_inTransaction h _ k).trans ?_
  rw [hactive]
  rfl

theorem advance_start_owned (howns : w.memory.ownsLock id = true) {u : UnitOfWork MemoryHandle}
    (hu : u.database = .shared)
    (k : Outcome (UnitOfWork MemoryHandle) → Action (Memory × ε) Unit) :
    w.advance id (u.start.andThen k) = w.advance id (k (.error .nestedTransaction)) := by
  by_cases hcurrent : ∀ h ∈ u.current, w.memory.isActive h = false
  · rw [advance_start hcurrent, hu, advance_openScope_owned howns]
    rfl
  · push Not at hcurrent
    obtain ⟨h, hh, hactive⟩ := hcurrent
    exact advance_start_active hh (Bool.not_eq_false _ ▸ hactive) k

/-- Work is given no other transaction while its task is in one. -/
theorem advance_run_owned (howns : w.memory.ownsLock id = true) {form : Scoping}
    (hform : form.IsShared) (work : MemoryHandle → Action (Memory × ε) α)
    (k : Outcome α → Action (Memory × ε) Unit) :
    w.advance id ((form.run work).andThen k) = w.advance id (k (.error .nestedTransaction)) := by
  cases form with
  | transaction =>
    refine (advance_transaction_shared work k).trans ?_
    rw [if_pos howns]
  | unitOfWork u =>
    rw [Scoping.run, UnitOfWork.within, Action.bind_andThen, advance_start_owned howns hform]

/-- Through the handle of a transaction that has not ended, every call is answered at once, and the
lock is left as it is. -/
theorem exists_advance_call (hn : w.memory.isActive (.inScope n) = true) (v : Verb) :
    ∃ s r, ∀ k : Outcome Verb.Reply → Action (Memory × ε) Unit,
      w.advance id ((v.call (.inScope n)).andThen k) = (w.withStore s).advance id (k r) := by
  cases hearly : v.early? true with
  | some r =>
    refine ⟨w.memory.store, r, fun k ↦ ?_⟩
    rw [advance_call_inScope, hn, hearly]
    rfl
  | none =>
    refine ⟨(v.run w.memory.store).1, (v.run w.memory.store).2, fun k ↦ ?_⟩
    rw [advance_call_inScope, hn, hearly]
    rfl

end World

namespace Machine

variable {ε : Type} {M : Machine (Memory × ε)} {s : Store} {e : ε} {id : TaskId} {n : Nat}

/-- Whatever tasks do: as long as a transaction has not ended, the task that has begun it neither
waits for the lock nor asks for it.  Its calls on the shared handle, and whatever would give it
another transaction, are refused at once and leave the whole world as it is.  Its calls on the
handle of the transaction are answered at once, and of the world they change the documents only. -/
theorem HasBegun.never_waits (h : HasBegun s e id n M)
    (hn : M.world.memory.isActive (.inScope n) = true) :
    M.world.memory.owner = some id ∧ (∀ mode, (id, mode) ∉ M.world.waiting) ∧
      (∀ mode next, M.turn ≠ some (id, .ask (.enter mode) next)) ∧
      (∀ v : Verb, v ≠ .execute [] → ∃ f : Fault, "UsageError" ∈ f.lineage ∧
        ∀ k, M.world.advance id ((v.call .shared).andThen k) =
          M.world.advance id (k (.error f))) ∧
      (∀ k, M.world.advance id ((Memory.openScope .shared).andThen k) =
        M.world.advance id (k (.error .nestedTransaction))) ∧
      (∀ (α : Type) (form : Scoping) (work : MemoryHandle → Action (Memory × ε) α) k,
        form.IsShared → M.world.advance id ((form.run work).andThen k) =
          M.world.advance id (k (.error .nestedTransaction))) ∧
      ∀ v : Verb, ∃ s' r, ∀ k, M.world.advance id ((v.call (.inScope n)).andThen k) =
        (M.world.withStore s').advance id (k r) := by
  have howner := h.owner hn
  have howns : M.world.memory.ownsLock id = true := decide_eq_true howner
  have hcourteous := (courteous_start s e).leads (sound_start _) h.leads_start
  refine ⟨howner, fun mode hmem ↦ ?_, fun mode next hturn ↦ ?_, fun v hv ↦ ?_, ?_, ?_, ?_⟩
  · rw [hcourteous.waiting id mode hmem] at howns
    cases howns
  · obtain ⟨hnot, -⟩ := hcourteous.busy _ hturn
    rw [howns] at hnot
    cases hnot
  · exact ⟨v.misuse, v.usage_misuse, World.advance_call_owned howns v hv⟩
  · exact World.advance_openScope_owned howns
  · exact fun α form work k hform ↦ World.advance_run_owned howns hform work k
  · exact World.exists_advance_call hn

/-- A task that waits for a gate inside a unit of work. -/
def lingering : Caller Unit Unit :=
  .within { database := .shared } (fun _ ↦ .ask (.gate "g") rfl fun r ↦ .done r) .done

/-- While it waits for the gate, the transaction of its unit of work has not ended. -/
theorem HasBegun.never_waits_lingering : ∃ M : Machine (Memory × Unit),
    HasBegun {} () 0 0 M ∧ M.world.memory.isActive (.inScope 0) = true ∧
      M.world.gateQueue = [(0, "g")] ∧ (∀ mode, (0, mode) ∉ M.world.waiting) ∧
      ∀ k, M.world.advance 0 ((Memory.openScope .shared).andThen k) =
        M.world.advance 0 (k (.error .nestedTransaction)) := by
  have hassigned : Leads IsCaller (⟨.ofState ({}, ()), none⟩ : Machine (Memory × Unit))
      ⟨.ofState ({}, ()), some (0, lingering.task)⟩ :=
    (Step.assign rfl ⟨Unit, lingering, rfl⟩).leads
  have hentered := ((hassigned.trans Step.go.leads).trans Step.go.leads).trans Step.go.leads
  have hlooked := (hentered.trans Step.go.leads).trans Step.go.leads
  -- the next step begins the transaction, and the rest of the turn leads to the gate
  have hbegun : HasBegun {} () 0 0 ⟨_, none⟩ :=
    ⟨_, _, _, _, hlooked, rfl, Step.go, rfl, Nat.one_pos, leads_advance _ _ _⟩
  obtain ⟨-, hwaiting, -, -, hopen, -⟩ := hbegun.never_waits rfl
  exact ⟨_, hbegun, rfl, rfl, hwaiting, hopen⟩

end Machine

end RecordStore
