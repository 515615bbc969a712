import RecordStore.Proofs.Memory.Exclusivity

/-!
# Tasks that do not wait for themselves

The owner of the store is the task that has begun the transaction which has not ended.  Before a
task asks for the lock it looks whether it is the owner itself, and only a task that has got the
lock for a transaction becomes the owner.  So the owner never waits for the lock.

* `Memory.Claims` is what a task may make of the owner, and `Action.Polite` follows an action with
  regard to that.  `Caller.polite_act` shows that every caller is polite.
* `Machine.Courteous` is what holds between the tasks of a machine, and `Machine.Courteous.step`
  shows that every step keeps it.
-/

namespace RecordStore

namespace Memory

variable {m m' : Memory} {i j : TaskId}

/-- A change of the memory by a task: the owner stays, or there is none any more, or it is this
task, and who begins a transaction becomes the owner. -/
structure Claims (i : TaskId) (m m' : Memory) : Prop where
  owner : m'.owner = m.owner ∨ m'.owner = none ∨ m'.owner = some i
  opened : m.scopes.length < m'.scopes.length → m'.owner = some i

theorem claims_store (i : TaskId) (m : Memory) (s : Store) : m.Claims i { m with store := s } :=
  ⟨.inl rfl, fun hlt ↦ absurd hlt (Nat.lt_irrefl _)⟩

theorem claims_opened (i : TaskId) (m : Memory) : m.Claims i (m.opened i) :=
  ⟨.inr (.inr rfl), fun _ ↦ rfl⟩

theorem claims_ended (i : TaskId) (m : Memory) (n : Nat) : m.Claims i (m.ended n) := by
  refine ⟨.inr (.inl rfl), fun hlt ↦ ?_⟩
  simp [Memory.ended] at hlt

theorem claims_restored (i : TaskId) (m : Memory) (n : Nat) : m.Claims i (m.restored n) := by
  unfold restored
  split
  · exact claims_store i m _
  · exact claims_store i m m.store

/-- A task that is not the owner does not become it by what others do. -/
theorem Claims.ownsLock (h : m.Claims i m') (hne : j ≠ i) (hj : m.ownsLock j = false) :
    m'.ownsLock j = false := by
  unfold Memory.ownsLock at hj ⊢
  rcases h.owner with howner | howner | howner
  · rw [howner]
    exact hj
  · rw [howner]
    rfl
  · rw [howner]
    exact decide_eq_false fun heq ↦ hne (Option.some.inj heq).symm

end Memory

/-! ## Polite actions -/

namespace Action

variable {ε α β : Type}

/-- Done by this task and begun in this memory, the action asks for the lock only where the task is
not the owner, and changes the owner by the rules.  What others do to the memory while it waits is
unknown. -/
def Polite : TaskId → Memory → Action (Memory × ε) α → Prop
  | _, _, done _ => True
  | _, _, exit _ => True
  | i, m, look next => ∀ e, Polite i m (next (m, e))
  | i, m, put s next => m.Claims i s.1 ∧ Polite i s.1 next
  | i, m, self next => Polite i m (next i)
  | i, m, lock next => ∀ l, Polite i m (next l)
  | i, m, ends next => ∀ es, Polite i m (next es)
  | i, m, fork next => (∀ c, Polite i m (next (.own c))) ∧ ∀ c m' r, Polite c m' (next (.child r))
  | i, m, ask (.enter _) next => m.ownsLock i = false ∧ ∀ m' r, Polite i m' (next r)
  | i, _, ask _ next => ∀ m' r, Polite i m' (next r)

variable {i : TaskId} {m : Memory}

/-- A request that is answered in whatever memory there is then. -/
theorem polite_ask {q : Request} {next : Outcome Unit → Action (Memory × ε) α}
    (hq : ∀ mode, q = .enter mode → m.ownsLock i = false) (h : ∀ m' r, (next r).Polite i m') :
    (ask q next).Polite i m := by
  cases q with
  | enter mode => exact ⟨hq mode rfl, h⟩
  | _ => exact h

theorem Polite.next {q : Request} {next : Outcome Unit → Action (Memory × ε) α}
    (h : (ask q next).Polite i m) (m' : Memory) (r : Outcome Unit) : (next r).Polite i m' := by
  cases q with
  | enter mode => exact h.2 m' r
  | _ => exact h m' r

theorem Polite.andThen {x : Action (Memory × ε) α} {k : Outcome α → Action (Memory × ε) β}
    (hx : x.Polite i m) (hk : ∀ i m' r, (k r).Polite i m') : (x.andThen k).Polite i m := by
  induction x generalizing i m with
  | done r => exact hk i m r
  | exit r => trivial
  | look next ih => exact fun e ↦ ih _ (hx e)
  | put s next ih => exact ⟨hx.1, ih hx.2⟩
  | self next ih => exact ih _ hx
  | lock next ih => exact fun l ↦ ih _ (hx l)
  | ends next ih => exact fun es ↦ ih _ (hx es)
  | fork next ih => exact ⟨fun c ↦ ih _ (hx.1 c), fun c m' r ↦ ih _ (hx.2 c m' r)⟩
  | ask q next ih =>
    refine polite_ask ?_ fun m' r ↦ ih r (hx.next m' r)
    rintro mode rfl
    exact hx.1

theorem Polite.bind {x : Action (Memory × ε) α} {f : α → Action (Memory × ε) β}
    (hx : x.Polite i m) (hf : ∀ i m' a, (f a).Polite i m') : (x >>= f).Polite i m := by
  refine hx.andThen fun i m' r ↦ ?_
  cases r with
  | ok a => exact hf i m' a
  | error e => trivial

theorem polite_start {x : Action (Memory × ε) Unit} (h : ∀ c m', x.Polite c m') :
    (start x).Polite i m := by
  refine ⟨fun c ↦ trivial, fun c m' r ↦ ?_⟩
  cases r with
  | ok _ => exact (h c m').andThen fun _ _ _ ↦ trivial
  | error f => trivial

/-- What only has to do with the store leaves the owner as it is. -/
theorem polite_onShared {f : Memory → Memory × Outcome α}
    (hf : ∀ m, ∃ s, (f m).1 = { m with store := s }) :
    (onShared f : Action (Memory × ε) α).Polite i m := by
  intro e
  obtain ⟨s, hs⟩ := hf m
  refine ⟨?_, trivial⟩
  change m.Claims i (f m).1
  rw [hs]
  exact Memory.claims_store i m s

end Action

namespace Memory

variable {ε α : Type} {i : TaskId} {m : Memory}

theorem polite_held {mode : Mode} {x : Action (Memory × ε) α} (hx : ∀ i m', x.Polite i m')
    (r : Outcome Unit) (m' : Memory) : (x.held mode r).Polite i m' := by
  cases r with
  | error f => trivial
  | ok _ =>
    refine (hx i m').andThen fun i m'' r ↦ fun m''' told ↦ ?_
    cases told <;> trivial

/-- The shared handle is refused to the owner before it asks for the lock. -/
theorem polite_accessing {mode : Mode} {x : Action (Memory × ε) α} (hx : ∀ i m', x.Polite i m')
    (h : MemoryHandle) : (accessing mode h x).Polite i m := by
  cases h with
  | inScope n =>
    rw [accessing_inScope]
    intro e
    dsimp only
    split
    · exact hx i m
    · trivial
  | shared =>
    rw [accessing_shared]
    intro e
    change Action.Polite i m (if m.ownsLock i then _ else _)
    split
    · trivial
    · rename_i howns
      exact ⟨Bool.eq_false_iff.mpr howns, fun m' r ↦ polite_held hx r m'⟩

theorem polite_begun (told : Outcome Unit) :
    (begun i told : Action (Memory × ε) MemoryHandle).Polite i m := by
  cases told with
  | error f => trivial
  | ok _ => exact fun e e' ↦ ⟨claims_opened i m, trivial⟩

/-- Who is the owner already is refused another transaction before it asks for the lock. -/
theorem polite_openScope (h : MemoryHandle) :
    (openScope h : Action (Memory × ε) MemoryHandle).Polite i m := by
  cases h with
  | inScope n =>
    rw [openScope_inScope]
    intro e
    dsimp only
    split <;> trivial
  | shared =>
    rw [openScope_shared]
    intro e
    change Action.Polite i m (if m.ownsLock i then _ else _)
    split
    · trivial
    · rename_i howns
      exact ⟨Bool.eq_false_iff.mpr howns, fun m' r ↦ polite_begun r⟩

theorem polite_close (n : Nat) : (close n : Action (Memory × ε) Unit).Polite i m :=
  fun _ ↦ ⟨claims_ended i m n, fun _ _ ↦ trivial⟩

theorem polite_commit (h : MemoryHandle) : (commit h : Action (Memory × ε) Unit).Polite i m := by
  intro e
  change (if !m.isActive h then throw _ >>= _ else _ : Action (Memory × ε) Unit).Polite _ _
  split
  · trivial
  · cases h with
    | shared => trivial
    | inScope n => exact polite_close n

theorem polite_rollback (h : MemoryHandle) :
    (rollback h : Action (Memory × ε) Unit).Polite i m := by
  intro e
  change (if m.isActive h then _ else _ : Action (Memory × ε) Unit).Polite _ _
  split
  · cases h with
    | shared => trivial
    | inScope n => exact fun e' ↦ ⟨claims_restored i m n, polite_close n⟩
  · trivial

theorem polite_conclude (scope : MemoryHandle) (r : Outcome α) :
    (conclude scope r : Action (Memory × ε) α).Polite i m := by
  cases r with
  | ok a => exact (polite_commit scope).bind fun _ _ _ ↦ trivial
  | error f => exact (polite_rollback scope).bind fun _ _ _ ↦ trivial

theorem polite_transaction {work : MemoryHandle → Action (Memory × ε) α}
    (hwork : ∀ scope i m', (work scope).Polite i m') (h : MemoryHandle) :
    (transaction h work).Polite i m := by
  rw [transaction_eq]
  refine (polite_openScope h).bind fun i m' scope ↦ ?_
  exact (hwork scope i m').andThen fun i m'' r ↦ polite_conclude scope r

end Memory

theorem Verb.polite_call {ε : Type} {i : TaskId} {m : Memory} (v : Verb) (h : MemoryHandle) :
    (v.call h : Action (Memory × ε) Verb.Reply).Polite i m := by
  have haccess (m : Memory) : (Memory.accessing v.mode h v.body :
      Action (Memory × ε) Verb.Reply).Polite i m :=
    Memory.polite_accessing (fun i m' ↦ Action.polite_onShared fun m' ↦ ⟨_, rfl⟩) h
  rw [Verb.call_eq]
  cases v with
  | fetch src q locked =>
    intro e
    dsimp only
    split
    · trivial
    · exact haccess m
  | _ =>
    dsimp only
    split
    · trivial
    · exact haccess m

theorem HandleCall.polite_act {ε : Type} {i : TaskId} {m : Memory} (c : HandleCall)
    (h : MemoryHandle) : (c.act h : Action (Memory × ε) HandleCall.Reply).Polite i m := by
  cases c with
  | verb v => exact (v.polite_call h).bind fun _ _ _ ↦ trivial
  | inTransaction => exact fun e ↦ trivial
  | openScope => exact (Memory.polite_openScope h).bind fun _ _ _ ↦ trivial
  | commit => exact (Memory.polite_commit h).bind fun _ _ _ ↦ trivial
  | rollback => exact (Memory.polite_rollback h).bind fun _ _ _ ↦ trivial

namespace Caller

variable {ε ρ : Type}

/-- Whatever handles a task uses, and however often: it never asks for the lock while it is the
owner. -/
theorem polite_act (c : Caller ε ρ) (i : TaskId) (m : Memory) : c.act.Polite i m := by
  induction c generalizing i m with
  | done r => trivial
  | see next ih => exact fun e ↦ ih e i m
  | set e next ih => exact fun _ ↦ ⟨Memory.claims_store i m m.store, ih i m⟩
  | self next ih => exact ih i i m
  | ends next ih => exact fun es ↦ ih es i m
  | ask q free next ih =>
    refine Action.polite_ask ?_ fun m' r ↦ ih r i m'
    rintro mode rfl
    cases free
  | start work next ihwork ih =>
    refine (Action.polite_start fun c m' ↦ ?_).bind fun i m' id ↦ ih id i m'
    exact (ihwork c m').andThen fun _ _ _ ↦ trivial
  | store c next ih =>
    exact (Action.polite_onShared fun m' ↦ ⟨_, rfl⟩).andThen fun i m' r ↦ ih r i m'
  | call h c next ih => exact (c.polite_act h).andThen fun i m' r ↦ ih r i m'
  | transaction h work next ihwork ih =>
    exact (Memory.polite_transaction (fun scope i m' ↦ ihwork scope i m') h).andThen
      fun i m' r ↦ ih r i m'

theorem polite_task (c : Caller ε ρ) (i : TaskId) (m : Memory) : c.task.Polite i m :=
  (c.polite_act i m).andThen fun _ _ _ ↦ trivial

end Caller

/-! ## Tasks of a machine -/

variable {ε : Type}

namespace Machine

open World

/-- Tasks are polite, and none that waits for the lock is the owner. -/
structure Courteous (M : Machine (Memory × ε)) : Prop where
  busy : ∀ p ∈ M.turn, p.2.Polite p.1 M.world.memory
  paused : ∀ i next, i ∉ M.turn.map Prod.fst → M.world.onward i = some next →
    ∀ m r, (next r).Polite i m
  waiting : ∀ i mode, (i, mode) ∈ M.world.waiting → M.world.memory.ownsLock i = false

variable {M M' : Machine (Memory × ε)} {w w' w₁ : World (Memory × ε)}
  {turn turn' : Option (TaskId × Action (Memory × ε) Unit)} {id i : TaskId} {mode : Mode}
  {r : Outcome Unit} {next : Outcome Unit → Action (Memory × ε) Unit}
  {a a' : Action (Memory × ε) Unit}

/-- Tasks that only move from one place to another stay as they are. -/
theorem Courteous.rearrange (h : Courteous ⟨w, turn⟩) (hstate : w'.state = w.state)
    (honward : w'.onward = w.onward) (hwaiting : w'.waiting = w.waiting) :
    Courteous ⟨w', turn⟩ where
  busy p hp := by
    rw [memory, hstate]
    exact h.busy p hp
  paused i next hi hnext := h.paused i next hi (honward ▸ hnext)
  waiting i mode hmem := by
    rw [memory, hstate]
    exact h.waiting i mode (hwaiting ▸ hmem)

theorem Courteous.alike (h : Courteous ⟨w, turn⟩) (ha : Alike w w') : Courteous ⟨w', turn⟩ :=
  h.rearrange ha.state ha.onward ha.waiting

/-- One task goes on, and all others wait as they did. -/
theorem Courteous.goesOn (id : TaskId) (h : Courteous ⟨w, turn⟩) (hturn : ∀ p ∈ turn, p.1 = id)
    (hturn' : ∀ p ∈ turn', p.1 = id ∧ p.2.Polite id w.memory)
    (hidle : turn' = none → ∀ next, w'.onward id = some next → ∀ m r, (next r).Polite id m)
    (hstate : w'.state = w.state) (honward : ∀ i ≠ id, w'.onward i = w.onward i)
    (hwaiting : ∀ p ∈ w'.waiting, p ∈ w.waiting ∨ w.memory.ownsLock p.1 = false) :
    Courteous ⟨w', turn'⟩ where
  busy p hp := by
    obtain ⟨hid, hpolite⟩ := hturn' p hp
    rw [memory, hstate, hid]
    exact hpolite
  paused i next hi hnext := by
    by_cases heq : i = id
    · subst heq
      cases turn' with
      | none => exact hidle rfl next hnext
      | some p => exact absurd (congrArg some (hturn' p rfl).1) hi
    · refine h.paused i next (fun hmem ↦ ?_) (honward i heq ▸ hnext)
      obtain ⟨p, hp, rfl⟩ := Option.mem_map.mp hmem
      exact heq (hturn p hp)
  waiting i mode hmem := by
    rw [memory, hstate]
    rcases hwaiting _ hmem with hmem | hnot
    · exact h.waiting i mode hmem
    · exact hnot

/-- A task that has its turn goes on without a change of the world. -/
theorem Courteous.own (h : Courteous ⟨w, some (id, a)⟩) (ha' : a'.Polite id w.memory) :
    Courteous ⟨w, some (id, a')⟩ where
  busy p hp := by
    cases hp
    exact ha'
  paused := h.paused
  waiting := h.waiting

/-- The task whose turn it is begins to wait. -/
theorem Courteous.pause (w' : World (Memory × ε)) (hsound : Sound ⟨w, some (id, a)⟩)
    (h : Courteous ⟨w, some (id, a)⟩) (hnext : ∀ m r, (next r).Polite id m)
    (htasks : w'.tasks = w.tasks) (hstate : w'.state = w.state)
    (hwaiting : ∀ p ∈ w'.waiting, p ∈ w.waiting ∨ w.memory.ownsLock p.1 = false)
    (ticket : Option Nat) : Courteous ⟨w'.mark id (.paused ticket next), none⟩ := by
  obtain ⟨hid, hothers⟩ := hsound.onward_mark htasks (.paused ticket next)
  refine h.goesOn id (by simp) (by simp) (fun _ next' hnext' ↦ ?_) hstate hothers hwaiting
  rw [hid] at hnext'
  cases hnext'
  exact hnext

/-- The task whose turn it is begins to wait for something other than the lock. -/
theorem Courteous.pause_push (hsound : Sound ⟨w, some (id, a)⟩) (h : Courteous ⟨w, some (id, a)⟩)
    (hnext : ∀ m r, (next r).Polite id m) (r : Outcome Unit) :
    Courteous ⟨(w.push (.resume id r)).mark id (.paused none next), none⟩ := by
  refine h.pause (w.push (.resume id r)) hsound hnext rfl rfl (fun p hp ↦ .inl ?_) none
  rwa [waiting_push] at hp

theorem Courteous.finish (hsound : Sound ⟨w, some (id, a)⟩) (h : Courteous ⟨w, some (id, a)⟩)
    (r : Outcome Unit) : Courteous ⟨w.mark id (.finished r), none⟩ := by
  obtain ⟨hid, hothers⟩ := hsound.onward_mark rfl (.finished r)
  refine h.goesOn id (by simp) (by simp) (fun _ next hnext ↦ ?_) rfl hothers fun p hp ↦ .inl hp
  rw [hid] at hnext
  cases hnext

/-- What a task writes makes no task the owner that waits. -/
theorem Courteous.put {s : Memory × ε} (hsound : Sound ⟨w, some (id, .put s a)⟩)
    (h : Courteous ⟨w, some (id, .put s a)⟩) :
    Courteous ⟨{ w with state := s }, some (id, a)⟩ := by
  obtain ⟨hclaims, hpolite⟩ := h.busy _ rfl
  refine ⟨?_, h.paused, fun i mode hmem ↦ hclaims.ownsLock ?_ (h.waiting i mode hmem)⟩
  · rintro _ ⟨⟩
    exact hpolite
  · rintro rfl
    exact hsound.notMem_waiting mode hmem

theorem Courteous.spawn (h : Courteous ⟨w, turn⟩)
    (hnext : ∀ i m r, (next r).Polite i m) : Courteous ⟨w.spawn next, turn⟩ := by
  have hwaiting : (w.spawn next).waiting = w.waiting := waiting_push _ _
  refine ⟨h.busy, fun i next' hi hnext' ↦ ?_, fun i mode hmem ↦ ?_⟩
  · change (w.spawn next).onward i = some next' at hnext'
    rw [onward_spawn] at hnext'
    split at hnext'
    · cases hnext'
      exact hnext i
    · exact h.paused i next' hi hnext'
  · change (i, mode) ∈ (w.spawn next).waiting at hmem
    rw [hwaiting] at hmem
    exact h.waiting i mode hmem

/-- A task that was paused goes on, and waits for the lock no more. -/
theorem Courteous.resume (w' : World (Memory × ε)) (hsound : Sound ⟨w, none⟩)
    (h : Courteous ⟨w, none⟩) {j : Job} (ho : Offers w j w₁) (hplaces : w.places = id ::ₘ w₁.places)
    (hwaiting : ∀ p ∈ w'.waiting, p ∈ w.waiting) (hstate : w'.state = w.state)
    (honward : w'.onward = w.onward) (htasks : w'.tasks = w₁.tasks) (r : Outcome Unit) :
    Courteous ⟨w', w'.resumed? (id, r)⟩ := by
  obtain ⟨next, hnext, -, hturn⟩ := exists_onward hsound ho hplaces
  have hresumed : w'.resumed? (id, r) = some (id, next r) := by
    rw [← hturn r, resumed?, resumed?, htasks]
  rw [hresumed]
  refine h.goesOn id (by simp) ?_ (by simp) hstate (fun i _ ↦ congrFun honward i)
    fun p hp ↦ .inl (hwaiting p hp)
  rintro _ ⟨⟩
  exact ⟨rfl, h.paused id next (by simp) hnext _ r⟩

/-- Taking up a job moves tasks or lets one go on. -/
theorem Courteous.take (hsound : Sound ⟨w, none⟩) (h : Courteous ⟨w, none⟩)
    {before after : List Job} {j : Job} (hready : w.ready = before ++ j :: after) :
    Courteous (Machine.take { w with ready := before ++ after } j) := by
  have ho := offers hready
  generalize { w with ready := before ++ after } = w₁ at ho
  cases j with
  | resume id r =>
    have hwaiting : w.waiting = w₁.waiting := ho.waiting
    exact h.resume w₁ hsound ho (ho.places_of_resumed rfl rfl) (fun p hp ↦ hwaiting ▸ hp) ho.state
      ho.onward rfl r
  | recheck id mode =>
    have hwaiting : w.waiting = (id, mode) ::ₘ w₁.waiting := ho.waiting
    have hplaces := ho.places_of_awaited rfl rfl
    rw [Machine.take, deliver]
    split
    · exact h.resume { w₁ with lock := (w₁.lock.desist mode).enter mode } hsound ho hplaces
        (fun p hp ↦ hwaiting ▸ Multiset.mem_cons_of_mem hp) ho.state ho.onward rfl (.ok ())
    · exact h.rearrange ho.state ho.onward ((waiting_enqueue w₁ (id, mode)).trans hwaiting.symm)
  | abort id mode =>
    have hwaiting : w.waiting = (id, mode) ::ₘ w₁.waiting := ho.waiting
    have hplaces := ho.places_of_awaited rfl rfl
    -- a writer that gives up wakes others, which only moves them
    have halike : Alike { w₁ with lock := w₁.lock.desist mode }
        (w₁.deliver (.abort id mode)).1 := by
      cases mode with
      | read => exact .refl _
      | write => exact alike_wake _
    have htasks : (w₁.deliver (.abort id mode)).1.tasks = w₁.tasks := by cases mode <;> rfl
    refine h.resume (w₁.deliver (.abort id mode)).1 hsound ho hplaces (fun p hp ↦ ?_)
      (halike.state.trans ho.state) (halike.onward.trans ho.onward) htasks (.error .cancelled)
    rw [halike.waiting] at hp
    exact hwaiting ▸ Multiset.mem_cons_of_mem hp
  | release id mode ticket =>
    have hwaiting : w.waiting = w₁.waiting := ho.waiting
    have hrest : Courteous ⟨w₁, none⟩ := h.rearrange ho.state ho.onward hwaiting.symm
    change Courteous ⟨w₁.perform (.release id mode ticket), none⟩
    rw [perform]
    cases hw' : w₁.letGo? mode with
    | ok w' =>
      obtain ⟨l, -, halike, -⟩ := letGo?_eq_ok hw'
      exact hrest.rearrange halike.state halike.onward ((waiting_push _ _).trans halike.waiting)
    | error f => exact hrest.rearrange rfl rfl (waiting_push _ _)
  | relay id ticket r =>
    have hwaiting : w.waiting = w₁.waiting := ho.waiting
    have hrest : Courteous ⟨w₁, none⟩ := h.rearrange ho.state ho.onward hwaiting.symm
    exact hrest.alike (alike_relay w₁ id ticket r)

/-- A task that is not the owner may wait for the lock. -/
theorem Courteous.enter (hsound : Sound ⟨w, some (id, .ask (.enter mode) next)⟩)
    (h : Courteous ⟨w, some (id, .ask (.enter mode) next)⟩) :
    Courteous (Machine.go w id (.ask (.enter mode) next)) := by
  obtain ⟨howns, hnext⟩ := h.busy _ rfl
  rw [Machine.go, serve]
  by_cases hm : w.lock.admits mode = true
  · rw [if_pos hm]
    have hentered : Courteous ⟨{ w with lock := w.lock.enter mode }, _⟩ := h.rearrange rfl rfl rfl
    exact hentered.own (hnext _ _)
  · rw [if_neg hm]
    refine h.pause { w with lock := w.lock.await mode, queue := w.queue ++ [(id, mode)] } hsound
      hnext rfl rfl (fun p hp ↦ ?_) none
    have hwaiting := waiting_enqueue { w with lock := w.lock.await mode } (id, mode)
    rcases Multiset.mem_cons.mp (hwaiting ▸ hp) with rfl | hp
    · exact .inr howns
    · exact .inl hp

theorem Courteous.ask {q : Request} (hsound : Sound ⟨w, some (id, .ask q next)⟩)
    (h : Courteous ⟨w, some (id, .ask q next)⟩) : Courteous (Machine.go w id (.ask q next)) := by
  have hnext := Action.Polite.next (h.busy _ rfl)
  cases q with
  | enter mode => exact h.enter hsound
  | leave mode =>
    refine h.pause (w.leaving id mode) hsound hnext rfl rfl (fun p hp ↦ .inl ?_) _
    rwa [show (w.leaving id mode).waiting = w.waiting from waiting_push w _] at hp
  | letGo mode =>
    rw [Machine.go, serve]
    cases hw' : w.letGo? mode with
    | ok w' =>
      obtain ⟨l, -, halike, -⟩ := letGo?_eq_ok hw'
      exact (h.rearrange halike.state halike.onward halike.waiting).own
        (hnext _ _)
    | error f => exact h.own (hnext _ _)
  | gate g =>
    rw [Machine.go, serve]
    by_cases hg : w.gates.contains g = true
    · rw [if_pos hg]
      exact h.own (hnext _ _)
    · rw [if_neg hg]
      exact h.pause { w with gateQueue := w.gateQueue ++ [(id, g)] } hsound hnext rfl rfl
        (fun p hp ↦ .inl hp) none
  | openGate g => exact (h.alike (alike_openGate w g)).own (hnext _ _)
  | cancel i =>
    rw [Machine.go, serve]
    by_cases hi : i = id
    · rw [if_pos hi]
      exact h.pause_push hsound hnext _
    · rw [if_neg hi]
      have halike : Alike w (w.cancel i) :=
        (hsound.placed.cancel (by simpa using Ne.symm hi)).2
      exact (h.alike halike).own (hnext _ _)
  | yield => exact h.pause_push hsound hnext _

theorem Courteous.go (hsound : Sound ⟨w, some (id, a)⟩) (h : Courteous ⟨w, some (id, a)⟩) :
    Courteous (Machine.go w id a) := by
  cases a with
  | done r => exact h.finish hsound r
  | exit r => exact h.finish hsound r
  | look next => exact h.own (h.busy _ rfl w.state.2)
  | put s next => exact h.put hsound
  | self next => exact h.own (h.busy _ rfl)
  | lock next => exact h.own (h.busy _ rfl _)
  | ends next => exact h.own (h.busy _ rfl _)
  | fork next =>
    obtain ⟨hown, hchild⟩ := h.busy _ rfl
    exact (h.spawn hchild).own (hown _)
  | ask q next => exact h.ask hsound

theorem Courteous.step {grip : Option Grip} (hsound : Sound M) (h : Courteous M)
    (hstep : Step IsCaller M grip M') : Courteous M' := by
  have hpolite {a : Action (Memory × ε) Unit} (ha : IsCaller a) (i : TaskId) (m : Memory) :
      a.Polite i m := by
    obtain ⟨ρ, c, rfl⟩ := ha
    exact c.polite_task i m
  cases hstep with
  | take hready => exact h.take hsound hready
  | go => exact h.go hsound
  | cancel id => exact h.alike (hsound.placed.cancel (by simp)).2
  | spawn hnext => exact h.spawn fun i m r ↦ hpolite (hnext r) i m
  | @assign w id r a hend ha =>
    refine h.goesOn id (by simp) ?_ (by simp) rfl (fun _ _ ↦ rfl) fun p hp ↦ .inl hp
    rintro _ ⟨⟩
    exact ⟨rfl, hpolite ha id _⟩

theorem courteous_start (s : Store) (e : ε) :
    Courteous (⟨.ofState ({ store := s }, e), none⟩ : Machine (Memory × ε)) where
  busy p hp := by cases hp
  paused i next _ hnext := by
    rw [onward, World.ofState] at hnext
    cases i <;> cases hnext
  waiting i mode hmem := by
    rw [waiting] at hmem
    simp [World.ofState] at hmem

/-- Machines stay courteous. -/
theorem Courteous.leads (hsound : Sound M) (h : Courteous M) (hleads : Leads IsCaller M M') :
    Courteous M' := by
  have hboth : Sound M' ∧ Courteous M' := by
    induction hleads with
    | refl => exact ⟨hsound, h⟩
    | tail _ hstep ih =>
      obtain ⟨grip, hstep⟩ := hstep
      exact ⟨ih.1.step hstep, ih.2.step ih.1 hstep⟩
  exact hboth.2

end Machine

end RecordStore
