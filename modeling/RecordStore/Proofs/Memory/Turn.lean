import RecordStore.Proofs.Memory.Client

/-!
# The turns of clients

Where a client waits is its `Stage`.  In a turn it goes on from there to the next stage, and what it
does with the documents on its way are events: each call looks at them at one moment, and a
transaction begins, ends and is undone at one.

* `Stage.play` is a turn, with the events in it.
* `Stage.play_eq` shows that a turn is what the action of the client comes to in the world.
-/

namespace RecordStore

/-- What happens to the documents.  Transactions have the number of their scope. -/
inductive Event where
  /-- A call through the shared handle, with what it answers. -/
  | alone (id : TaskId) (v : Verb) (r : Outcome Verb.Reply)
  | began (id : TaskId) (n : Nat)
  /-- A call through the handle of a transaction. -/
  | scoped (id : TaskId) (n : Nat) (v : Verb) (r : Outcome Verb.Reply)
  | committed (id : TaskId) (n : Nat)
  | rolledBack (id : TaskId) (n : Nat)

/-- Where a client waits, and how it goes on once it is told something. -/
inductive Stage (ε ρ : Type) where
  | ended (r : Outcome Unit)
  /-- For anything but the lock, and not in a transaction. -/
  | outside (next : Outcome Unit → Client ε ρ)
  /-- For anything but the lock, in the work of a transaction, after which `next` follows. -/
  | inside (n : Nat) (rest : Outcome Unit → Client ε ρ) (next : Outcome ρ → Client ε ρ)
  /-- For the lock, to make a call. -/
  | calling (v : Verb) (next : Outcome Verb.Reply → Client ε ρ)
  /-- For the lock, to begin a transaction. -/
  | opening (work : Client ε ρ) (next : Outcome ρ → Client ε ρ)

/-- What a turn comes to: the world, the stage, the job that the task waits for there, and what has
happened to the documents. -/
structure Turn (ε ρ : Type) where
  world : World (Memory × ε)
  stage : Stage ε ρ
  ticket : Option Nat := none
  events : List Event := []

variable {ε ρ : Type}

/-- The turn after something that has happened before. -/
def Turn.after (t : Turn ε ρ) (e : Event) : Turn ε ρ := { t with events := e :: t.events }

namespace World

/-- The world in which a task waits for the lock. -/
def awaiting {σ : Type} (w : World σ) (id : TaskId) (m : Mode) : World σ :=
  { w with lock := w.lock.await m, queue := w.queue ++ [(id, m)] }

/-- The world in which somebody has taken the lock. -/
def entered {σ : Type} (w : World σ) (m : Mode) : World σ := { w with lock := w.lock.enter m }

/-- The world with something else that tasks have in common. -/
def withCommon (w : World (Memory × ε)) (e : ε) : World (Memory × ε) :=
  { w with state := (w.memory, e) }

end World

namespace Turn

/-- A transaction ends with its documents as they are, and its task waits until the lock is left. -/
def closing (id : TaskId) (n : Nat) (w : World (Memory × ε)) (stage : Stage ε ρ) : Turn ε ρ where
  world := (w.withMemory (w.memory.ended n)).leaving id .write
  stage := stage
  ticket := some w.tickets

/-- A transaction is kept. -/
def committing (id : TaskId) (n : Nat) (w : World (Memory × ε)) (stage : Stage ε ρ) : Turn ε ρ :=
  (closing id n w stage).after (.committed id n)

/-- A transaction is undone. -/
def undoing (id : TaskId) (n : Nat) (w : World (Memory × ε)) (stage : Stage ε ρ) : Turn ε ρ :=
  (closing id n (w.withMemory (w.memory.restored n)) stage).after (.rolledBack id n)

/-- A call by a task that has the lock. -/
def call (id : TaskId) (v : Verb) (w : World (Memory × ε))
    (next : Outcome Verb.Reply → Client ε ρ) : Turn ε ρ where
  world := (w.withStore (v.run w.memory.store).1).leaving id v.mode
  stage := .outside fun told ↦ next (told.bind fun _ ↦ (v.run w.memory.store).2)
  ticket := some w.tickets
  events := [.alone id v (v.run w.memory.store).2]

end Turn

namespace Client

/-- What is left to do of a transaction and after it. -/
def within (n : Nat) (next : Outcome ρ → Client ε ρ) (c : Client ε ρ) :
    Action (Memory × ε) Unit :=
  ((c.act (.inScope n)).andThen (Memory.conclude (.inScope n))).andThen fun r ↦ (next r).task

/-- The turn after the work of a transaction, which may have ended before. -/
def conclude (id : TaskId) (n : Nat) (next : Outcome ρ → Client ε ρ)
    (goOn : World (Memory × ε) → Outcome ρ → Turn ε ρ) (r : Outcome ρ) (w : World (Memory × ε)) :
    Turn ε ρ :=
  let stage := .outside fun told ↦ next (told.bind fun _ ↦ r)
  if w.memory.isActive (.inScope n) then
    match r with
    | .ok _ => .committing id n w stage
    | .error _ => .undoing id n w stage
  else goOn w (r.bind fun _ ↦ .error (.noTransaction "commit"))

/-- The turn of a client that does the work of a transaction.  `next` follows upon the work, and
`goOn` is a turn that begins with it. -/
def playIn (id : TaskId) (n : Nat) (next : Outcome ρ → Client ε ρ)
    (goOn : World (Memory × ε) → Outcome ρ → Turn ε ρ) :
    Client ε ρ → World (Memory × ε) → Turn ε ρ
  | done r, w => conclude id n next goOn r w
  | see rest, w => playIn id n next goOn (rest w.state.2) w
  | set e rest, w => playIn id n next goOn rest (w.withCommon e)
  | ask q _ rest, w => match w.serve id q with
    | .inl (w', r) => playIn id n next goOn (rest r) w'
    | .inr (w', ticket) => { world := w', stage := .inside n rest next, ticket }
  | call v rest, w => match v.early? (w.memory.isActive (.inScope n)) with
    | some r => playIn id n next goOn (rest r) w
    | none =>
      if w.memory.isActive (.inScope n) then
        (playIn id n next goOn (rest (v.run w.memory.store).2)
          (w.withStore (v.run w.memory.store).1)).after
            (.scoped id n v (v.run w.memory.store).2)
      else playIn id n next goOn (rest (.error (.usage .endedHandle))) w
  | commit rest, w =>
    if w.memory.isActive (.inScope n) then .committing id n w (.inside n rest next)
    else playIn id n next goOn (rest (.error (.noTransaction "commit"))) w
  | rollback rest, w =>
    if w.memory.isActive (.inScope n) then .undoing id n w (.inside n rest next)
    else playIn id n next goOn (rest (.ok ())) w
  | transaction _ rest, w =>
    if w.memory.isActive (.inScope n) then
      playIn id n next goOn (rest (.error .nestedTransaction)) w
    else playIn id n next goOn (rest (.error (.usage .endedHandle))) w

/-- The turn of a task that has the lock and begins a transaction. -/
def playBegun (id : TaskId) (next : Outcome ρ → Client ε ρ)
    (goOn : World (Memory × ε) → Outcome ρ → Turn ε ρ) (work : Client ε ρ)
    (w : World (Memory × ε)) : Turn ε ρ :=
  (work.playIn id w.memory.scopes.length next goOn (w.withMemory (w.memory.opened id))).after
    (.began id w.memory.scopes.length)

/-- The turn of a client with the shared handle. -/
def play (id : TaskId) : Client ε ρ → World (Memory × ε) → Turn ε ρ
  | done r, w => { world := w, stage := .ended (r.map fun _ ↦ ()) }
  | see next, w => play id (next w.state.2) w
  | set e next, w => play id next (w.withCommon e)
  | ask q _ next, w => match w.serve id q with
    | .inl (w', r) => play id (next r) w'
    | .inr (w', ticket) => { world := w', stage := .outside next, ticket }
  | call v next, w => match v.early? false with
    | some r => play id (next r) w
    | none =>
      if w.memory.ownsLock id then play id (next (.error (.usage .sharedHandle))) w
      else if w.lock.admits v.mode then .call id v (w.entered v.mode) next
      else { world := w.awaiting id v.mode, stage := .calling v next }
  | commit next, w => play id (next (.error (.noTransaction "commit"))) w
  | rollback next, w => play id (next (.ok ())) w
  | transaction work next, w =>
    if w.memory.ownsLock id then play id (next (.error .nestedTransaction)) w
    else if w.lock.admits .write then
      work.playBegun id next (fun w r ↦ play id (next r) w) (w.entered .write)
    else { world := w.awaiting id .write, stage := .opening work next }

end Client

namespace Stage

/-- What a task does that waits at a stage and is told something. -/
def act (id : TaskId) : Stage ε ρ → Outcome Unit → Action (Memory × ε) Unit
  | ended r, _ => .done r
  | outside next, told => (next told).task
  | inside n rest next, told => (rest told).within n next
  | calling v next, told => (v.body.held v.mode told).andThen fun r ↦ (next r).task
  | opening work next, told =>
    (Memory.begun id told >>= fun scope ↦
      (work.act scope).andThen (Memory.conclude scope)).andThen fun r ↦ (next r).task

/-- How far a task has come that waits at a stage. -/
def progress (id : TaskId) (ticket : Option Nat) : Stage ε ρ → Progress (Memory × ε)
  | ended r => .finished r
  | stage => .paused ticket (stage.act id)

/-- A turn that begins at a stage, with what the task is told. -/
def play (id : TaskId) (w : World (Memory × ε)) (told : Outcome Unit) : Stage ε ρ → Turn ε ρ
  | ended r => { world := w, stage := ended r }
  | outside next => (next told).play id w
  | inside n rest next => (rest told).playIn id n next (fun w r ↦ (next r).play id w) w
  | calling v next => match told with
    | .ok _ => .call id v w next
    | .error f => (next (.error f)).play id w
  | opening work next => match told with
    | .ok _ => work.playBegun id next (fun w r ↦ (next r).play id w) w
    | .error f => (next (.error f)).play id w

end Stage

/-- The world after a turn. -/
def Turn.settled (t : Turn ε ρ) (id : TaskId) : World (Memory × ε) :=
  t.world.mark id (t.stage.progress id t.ticket)

/-! ## What a turn comes to in the world -/

variable {w : World (Memory × ε)} {id : TaskId} {n : Nat}

theorem World.advance_ask_of_inl {σ : Type} {w w' : World σ} {q : Request} {r : Outcome Unit}
    {next : Outcome Unit → Action σ Unit} (h : w.serve id q = .inl (w', r)) :
    w.advance id (.ask q next) = w'.advance id (next r) := by
  rw [World.advance, h]

theorem World.advance_ask_of_inr {σ : Type} {w w' : World σ} {q : Request} {ticket : Option Nat}
    {next : Outcome Unit → Action σ Unit} (h : w.serve id q = .inr (w', ticket)) :
    w.advance id (.ask q next) = w'.mark id (.paused ticket next) := by
  rw [World.advance, h]

theorem World.serve_enter {σ : Type} (w : World σ) (id : TaskId) (m : Mode) :
    w.serve id (.enter m) =
      if w.lock.admits m then .inl (w.entered m, .ok ()) else .inr (w.awaiting id m, none) := rfl

namespace Client

theorem within_call (v : Verb) (rest : Outcome Verb.Reply → Client ε ρ)
    (next : Outcome ρ → Client ε ρ) : (call v rest).within n next =
      (v.call (.inScope n)).andThen fun r ↦ (rest r).within n next := by
  simp only [within, act, Action.andThen_assoc]

theorem within_commit (rest : Outcome Unit → Client ε ρ) (next : Outcome ρ → Client ε ρ) :
    (commit rest).within n next =
      (Memory.commit (.inScope n)).andThen fun r ↦ (rest r).within n next := by
  simp only [within, act, Action.andThen_assoc]

theorem within_rollback (rest : Outcome Unit → Client ε ρ) (next : Outcome ρ → Client ε ρ) :
    (rollback rest).within n next =
      (Memory.rollback (.inScope n)).andThen fun r ↦ (rest r).within n next := by
  simp only [within, act, Action.andThen_assoc]

theorem within_transaction (work : Client ε ρ) (rest : Outcome ρ → Client ε ρ)
    (next : Outcome ρ → Client ε ρ) : (transaction work rest).within n next =
      (Memory.transaction (.inScope n) fun scope ↦ work.act scope).andThen fun r ↦
        (rest r).within n next := by
  simp only [within, act, Action.andThen_assoc]

section PlayIn

variable {next : Outcome ρ → Client ε ρ} {goOn : World (Memory × ε) → Outcome ρ → Turn ε ρ}

theorem conclude_eq (hgoOn : ∀ w r, (goOn w r).settled id = w.advance id (next r).task)
    (r : Outcome ρ) (w : World (Memory × ε)) :
    (conclude id n next goOn r w).settled id = w.advance id ((done r).within n next) := by
  rw [within, act, Action.andThen_done, World.advance_conclude]
  unfold conclude
  cases w.memory.isActive (.inScope n) with
  | false => exact hgoOn w _
  | true => cases r <;> rfl

/-- A turn in the work of a transaction is what the rest of the work comes to. -/
theorem playIn_eq (hgoOn : ∀ w r, (goOn w r).settled id = w.advance id (next r).task)
    (c : Client ε ρ) (w : World (Memory × ε)) :
    (c.playIn id n next goOn w).settled id = w.advance id (c.within n next) := by
  induction c generalizing w with
  | done r => exact conclude_eq hgoOn r w
  | see rest ih => exact ih w.state.2 w
  | set e rest ih => exact ih (w.withCommon e)
  | ask q free rest ih =>
    rw [playIn]
    cases hserve : w.serve id q with
    | inl p =>
      have hnext : w.advance id ((ask q free rest).within n next) =
          p.1.advance id ((rest p.2).within n next) := World.advance_ask_of_inl hserve
      rw [hnext]
      exact ih p.2 p.1
    | inr p => exact (World.advance_ask_of_inr hserve).symm
  | call v rest ih =>
    rw [within_call, World.advance_call_inScope, playIn]
    generalize w.memory.isActive (.inScope n) = active
    cases v.early? active with
    | some r => exact ih r w
    | none => cases active <;> exact ih _ _
  | commit rest ih =>
    rw [within_commit, World.advance_commit_inScope, playIn]
    cases w.memory.isActive (.inScope n) with
    | false => exact ih _ w
    | true => rfl
  | rollback rest ih =>
    rw [within_rollback, World.advance_rollback_inScope, playIn]
    cases w.memory.isActive (.inScope n) with
    | false => exact ih _ w
    | true => rfl
  | transaction work rest _ ih =>
    rw [within_transaction, World.advance_transaction_inScope, playIn]
    cases w.memory.isActive (.inScope n) <;> exact ih _ w

theorem playBegun_eq (hgoOn : ∀ w r, (goOn w r).settled id = w.advance id (next r).task)
    (work : Client ε ρ) (w : World (Memory × ε)) :
    (work.playBegun id next goOn w).settled id =
      w.advance id ((Memory.begun id (.ok ()) >>= fun scope ↦
        (work.act scope).andThen (Memory.conclude scope)).andThen fun r ↦ (next r).task) := by
  rw [World.advance_begun]
  exact playIn_eq hgoOn work _

end PlayIn

/-- A turn with the shared handle is what the task comes to. -/
theorem play_eq (c : Client ε ρ) (w : World (Memory × ε)) :
    (c.play id w).settled id = w.advance id c.task := by
  induction c generalizing w with
  | done r => rfl
  | see next ih => exact ih w.state.2 w
  | set e next ih => exact ih (w.withCommon e)
  | ask q free next ih =>
    rw [play]
    cases hserve : w.serve id q with
    | inl p =>
      have hnext : w.advance id (ask q free next).task = p.1.advance id (next p.2).task :=
        World.advance_ask_of_inl hserve
      rw [hnext]
      exact ih p.2 p.1
    | inr p => exact (World.advance_ask_of_inr hserve).symm
  | call v next ih =>
    rw [task, act, Action.andThen_assoc, World.advance_call_shared, play]
    cases v.early? false with
    | some r => exact ih r w
    | none =>
      cases w.memory.ownsLock id with
      | true => exact ih _ w
      | false =>
        have hserve := w.serve_enter id v.mode
        cases hm : w.lock.admits v.mode with
        | true =>
          rw [hm, if_pos rfl] at hserve
          refine Eq.trans ?_ (World.advance_ask_of_inl hserve).symm
          exact (World.advance_held v.mode fun r ↦ (next r).task).symm
        | false =>
          rw [hm, if_neg Bool.false_ne_true] at hserve
          exact (World.advance_ask_of_inr hserve).symm
  | commit next ih => exact ih _ w
  | rollback next ih => exact ih _ w
  | transaction work next _ ih =>
    rw [task, act, Action.andThen_assoc, World.advance_transaction_shared, play]
    cases w.memory.ownsLock id with
    | true => exact ih _ w
    | false =>
      have hserve := w.serve_enter id .write
      cases hm : w.lock.admits .write with
      | true =>
        rw [hm, if_pos rfl] at hserve
        refine Eq.trans ?_ (World.advance_ask_of_inl hserve).symm
        exact playBegun_eq (fun w r ↦ ih r w) work (w.entered .write)
      | false =>
        rw [hm, if_neg Bool.false_ne_true] at hserve
        exact (World.advance_ask_of_inr hserve).symm

end Client

/-- A turn that begins at a stage is what the task comes to. -/
theorem Stage.play_eq (stage : Stage ε ρ) (told : Outcome Unit) (w : World (Memory × ε)) :
    (stage.play id w told).settled id = w.advance id (stage.act id told) := by
  cases stage with
  | ended r => rfl
  | outside next => exact (next told).play_eq w
  | inside n rest next => exact Client.playIn_eq (fun w r ↦ (next r).play_eq w) (rest told) w
  | calling v next =>
    cases told with
    | ok _ => exact (World.advance_held v.mode fun r ↦ (next r).task).symm
    | error f => exact (next (.error f)).play_eq w
  | opening work next =>
    cases told with
    | ok _ => exact Client.playBegun_eq (fun w r ↦ (next r).play_eq w) work w
    | error f => exact (next (.error f)).play_eq w

end RecordStore
