import RecordStore.Proofs.Memory.Kept

/-!
# Turns that do not see the documents

While somebody holds the lock alone, a client that is not in a transaction neither looks at the
documents nor changes them: its turn would be the same with any other documents.

* `Turn.Blind` is what this means.
* `Client.play_blind` and `Stage.play_blind` show it.
-/

namespace RecordStore

variable {ε ρ : Type} {w w' : World (Memory × ε)} {id : TaskId} {n : Nat}

namespace World

theorem cancel_withStore (w : World (Memory × ε)) (s : Store) (i : TaskId) :
    (w.withStore s).cancel i = (w.cancel i).withStore s := by
  have htasks : (w.withStore s).tasks = w.tasks := rfl
  rw [cancel, cancel, htasks]
  cases w.tasks[i]? with
  | none => rfl
  | some p =>
    cases p with
    | finished r => rfl
    | paused ticket next =>
      have hqueue (w : World (Memory × ε)) : (w.mark i (.paused none next)).queue = w.queue := rfl
      have hgates (w : World (Memory × ε)) :
          (w.mark i (.paused none next)).gateQueue = w.gateQueue := rfl
      have hqueue' : (w.withStore s).queue = w.queue := rfl
      have hgates' : (w.withStore s).gateQueue = w.gateQueue := rfl
      simp only [hqueue, hgates, hqueue', hgates']
      cases w.queue.find? (·.1 = i) with
      | some p => rfl
      | none =>
        cases w.gateQueue.find? (·.1 = i) with
        | some p => rfl
        | none => cases ticket <;> rfl

/-- A request that has nothing to do with the lock does not depend on the documents. -/
theorem serve_inl_withStore {q : Request} {r : Outcome Unit} (hq : q.isFree = true)
    (h : w.serve id q = .inl (w', r)) (s : Store) :
    (w.withStore s).serve id q = .inl (w'.withStore s, r) := by
  cases q with
  | enter m => cases hq
  | leave m => cases hq
  | letGo m => cases hq
  | gate g =>
    rw [serve] at h
    split at h
    · rename_i hg
      cases h
      exact if_pos hg
    · cases h
  | openGate g =>
    cases h
    rfl
  | cancel i =>
    rw [serve] at h
    split at h
    · cases h
    · rename_i hi
      cases h
      rw [serve, if_neg hi, cancel_withStore]
  | yield => cases h

theorem serve_inr_withStore {q : Request} {ticket : Option Nat} (hq : q.isFree = true)
    (h : w.serve id q = .inr (w', ticket)) (s : Store) :
    (w.withStore s).serve id q = .inr (w'.withStore s, ticket) := by
  cases q with
  | enter m => cases hq
  | leave m => cases hq
  | letGo m => cases hq
  | gate g =>
    rw [serve] at h
    split at h
    · cases h
    · rename_i hg
      cases h
      exact if_neg hg
  | openGate g => cases h
  | cancel i =>
    rw [serve] at h
    split at h
    · rename_i hi
      cases h
      exact if_pos hi
    · cases h
  | yield =>
    cases h
    rfl

/-- While somebody holds the lock alone, it admits nobody. -/
theorem admits_eq_false {l : Lock} (h : l.writer = true) (m : Mode) : l.admits m = false := by
  cases m <;> simp [Lock.admits, h]

end World

namespace Turn

/-- The turn with other documents. -/
def withStore (t : Turn ε ρ) (s : Store) : Turn ε ρ := { t with world := t.world.withStore s }

/-- A turn in which nothing happens to the documents, which stay as they are, and which would be the
same with any others. -/
structure Blind (w : World (Memory × ε)) (play : World (Memory × ε) → Turn ε ρ) : Prop where
  events : (play w).events = []
  memory : (play w).world.memory = w.memory
  blind : ∀ s, play (w.withStore s) = (play w).withStore s

/-- A turn that is another one in some world. -/
theorem Blind.of_eq {play play' : World (Memory × ε) → Turn ε ρ} (h : Blind w' play')
    (hmemory : w'.memory = w.memory) (hplay : play w = play' w')
    (hstore : ∀ s, play (w.withStore s) = play' (w'.withStore s)) : Blind w play where
  events := hplay ▸ h.events
  memory := hplay ▸ h.memory.trans hmemory
  blind s := by
    rw [hplay, hstore]
    exact h.blind s

theorem blind_awaiting (m : Mode) (stage : Stage ε ρ) :
    Blind w fun w ↦ { world := w.awaiting id m, stage } :=
  ⟨rfl, rfl, fun _ ↦ rfl⟩

open World in
/-- A turn in which the task asks for something is blind if what follows upon the answer is. -/
theorem blind_ask {q : Request} {play : World (Memory × ε) → Turn ε ρ} (stage : Stage ε ρ)
    (goOn : Outcome Unit → World (Memory × ε) → Turn ε ρ) (free : q.isFree = true)
    (hbusy : Busy w id) (hinl : ∀ w w' r, w.serve id q = .inl (w', r) → play w = goOn r w')
    (hinr : ∀ w w' ticket, w.serve id q = .inr (w', ticket) →
      play w = { world := w', stage, ticket })
    (hgoOn : ∀ w' r, Busy w' id → w'.memory = w.memory → w'.lock = w.lock → Blind w' (goOn r)) :
    Blind w play := by
  cases hserve : w.serve id q with
  | inl p =>
    obtain ⟨hbusy', halike⟩ := hbusy.serve_inl free hserve
    have hmemory : p.1.memory = w.memory := congrArg Prod.fst halike.state
    exact (hgoOn p.1 p.2 hbusy' hmemory halike.lock).of_eq hmemory (hinl _ _ _ hserve)
      fun s ↦ hinl _ _ _ (serve_inl_withStore free hserve s)
  | inr p =>
    have hmemory : p.1.memory = w.memory := congrArg Prod.fst (serve_inr free hserve).state
    have hplay := hinr _ _ _ hserve
    refine ⟨?_, ?_, fun s ↦ ?_⟩
    · rw [hplay]
    · rw [hplay]
      exact hmemory
    · rw [hplay, hinr _ _ _ (serve_inr_withStore free hserve s)]
      rfl

end Turn

namespace Client

open World Turn

variable {next : Outcome ρ → Client ε ρ} {goOn : World (Memory × ε) → Outcome ρ → Turn ε ρ}

/-- The work of a transaction that has ended does not see the documents. -/
theorem playIn_blind
    (hgoOn : ∀ w r, Busy w id → w.lock.writer = true → Blind w fun w ↦ goOn w r)
    (hn : w.memory.isActive (.inScope n) = false) (hbusy : Busy w id)
    (hwriter : w.lock.writer = true) (c : Client ε ρ) :
    Blind w (c.playIn id n next goOn) := by
  induction c generalizing w with
  | done r =>
    have hconclude (w : World (Memory × ε)) (hn : w.memory.isActive (.inScope n) = false) :
        conclude id n next goOn r w =
          goOn w (r.bind fun _ ↦ .error (.noTransaction "commit")) := by
      unfold conclude
      rw [hn]
      rfl
    exact (hgoOn w _ hbusy hwriter).of_eq rfl (hconclude w hn) fun s ↦ hconclude _ hn
  | see rest ih => exact (ih w.state.2 hn hbusy hwriter).of_eq rfl rfl fun _ ↦ rfl
  | set e rest ih =>
    exact (ih (w := w.withCommon e) hn (hbusy.withState _) hwriter).of_eq rfl rfl fun _ ↦ rfl
  | ask q free rest ih =>
    refine blind_ask (.inside n rest next) (fun r ↦ (rest r).playIn id n next goOn) free hbusy
      (fun w w' r hserve ↦ ?_) (fun w w' ticket hserve ↦ ?_) fun w' r hbusy' hmemory hlock ↦ ?_
    · rw [playIn, hserve]
    · rw [playIn, hserve]
    · exact ih r (hmemory ▸ hn) hbusy' (hlock ▸ hwriter)
  | call v rest ih =>
    have hcall (w : World (Memory × ε)) (hn : w.memory.isActive (.inScope n) = false) :
        (call v rest).playIn id n next goOn w = (rest ((v.early? false).getD
          (.error (.usage .endedHandle)))).playIn id n next goOn w := by
      rw [playIn, hn]
      cases v.early? false <;> rfl
    exact (ih _ hn hbusy hwriter).of_eq rfl (hcall w hn) fun s ↦ hcall _ hn
  | commit rest ih =>
    have hcommit (w : World (Memory × ε)) (hn : w.memory.isActive (.inScope n) = false) :
        (commit rest).playIn id n next goOn w =
          (rest (.error (.noTransaction "commit"))).playIn id n next goOn w := by
      rw [playIn, hn]
      rfl
    exact (ih _ hn hbusy hwriter).of_eq rfl (hcommit w hn) fun s ↦ hcommit _ hn
  | rollback rest ih =>
    have hrollback (w : World (Memory × ε)) (hn : w.memory.isActive (.inScope n) = false) :
        (rollback rest).playIn id n next goOn w = (rest (.ok ())).playIn id n next goOn w := by
      rw [playIn, hn]
      rfl
    exact (ih _ hn hbusy hwriter).of_eq rfl (hrollback w hn) fun s ↦ hrollback _ hn
  | transaction work rest _ ih =>
    have hnested (w : World (Memory × ε)) (hn : w.memory.isActive (.inScope n) = false) :
        (transaction work rest).playIn id n next goOn w =
          (rest (.error (.usage .endedHandle))).playIn id n next goOn w := by
      rw [playIn, hn]
      rfl
    exact (ih _ hn hbusy hwriter).of_eq rfl (hnested w hn) fun s ↦ hnested _ hn

/-- While somebody holds the lock alone, nobody else sees the documents. -/
theorem play_blind (hbusy : Busy w id) (hwriter : w.lock.writer = true) (c : Client ε ρ) :
    Blind w (c.play id) := by
  induction c generalizing w with
  | done r => exact ⟨rfl, rfl, fun _ ↦ rfl⟩
  | see next ih => exact (ih w.state.2 hbusy hwriter).of_eq rfl rfl fun _ ↦ rfl
  | set e next ih =>
    exact (ih (w := w.withCommon e) (hbusy.withState _) hwriter).of_eq rfl rfl fun _ ↦ rfl
  | ask q free next ih =>
    refine blind_ask (.outside next) (fun r ↦ (next r).play id) free hbusy
      (fun w w' r hserve ↦ ?_) (fun w w' ticket hserve ↦ ?_) fun w' r hbusy' _ hlock ↦ ?_
    · rw [play, hserve]
    · rw [play, hserve]
    · exact ih r hbusy' (hlock ▸ hwriter)
  | call v next ih =>
    cases hearly : v.early? false with
    | some r =>
      have hcall (w : World (Memory × ε)) : (call v next).play id w = (next r).play id w := by
        rw [play, hearly]
      exact (ih r hbusy hwriter).of_eq rfl (hcall w) fun s ↦ hcall _
    | none =>
      cases howns : w.memory.ownsLock id with
      | true =>
        have hcall (w : World (Memory × ε)) (howns : w.memory.ownsLock id = true) :
            (call v next).play id w = (next (.error (.usage .sharedHandle))).play id w := by
          rw [play, hearly, howns]
          rfl
        exact (ih _ hbusy hwriter).of_eq rfl (hcall w howns) fun s ↦ hcall _ howns
      | false =>
        have hcall (w : World (Memory × ε)) (howns : w.memory.ownsLock id = false)
            (hwriter : w.lock.writer = true) : (call v next).play id w =
              { world := w.awaiting id v.mode, stage := .calling v next } := by
          rw [play, hearly, howns, admits_eq_false hwriter]
          rfl
        exact (blind_awaiting v.mode _).of_eq rfl (hcall w howns hwriter) fun s ↦
          hcall _ howns hwriter
  | commit next ih => exact (ih _ hbusy hwriter).of_eq rfl rfl fun _ ↦ rfl
  | rollback next ih => exact (ih _ hbusy hwriter).of_eq rfl rfl fun _ ↦ rfl
  | transaction work next _ ih =>
    cases howns : w.memory.ownsLock id with
    | true =>
      have hnested (w : World (Memory × ε)) (howns : w.memory.ownsLock id = true) :
          (transaction work next).play id w = (next (.error .nestedTransaction)).play id w := by
        rw [play, howns]
        rfl
      exact (ih _ hbusy hwriter).of_eq rfl (hnested w howns) fun s ↦ hnested _ howns
    | false =>
      have hopen (w : World (Memory × ε)) (howns : w.memory.ownsLock id = false)
          (hwriter : w.lock.writer = true) : (transaction work next).play id w =
            { world := w.awaiting id .write, stage := .opening work next } := by
        rw [play, howns, admits_eq_false hwriter]
        rfl
      exact (blind_awaiting .write _).of_eq rfl (hopen w howns hwriter) fun s ↦
        hopen _ howns hwriter

end Client

namespace Stage

open World Turn

/-- A turn does not see the documents that begins while somebody holds the lock alone, unless its
task is in the work of a transaction or is let into the lock. -/
theorem play_blind {stage : Stage ε ρ} {told : Outcome Unit} (hbusy : Busy w id)
    (hwriter : w.lock.writer = true)
    (hinside : ∀ n rest next, stage = .inside n rest next → w.memory.isActive (.inScope n) = false)
    (hstage : stage.awaited? = none ∨ ∃ f, told = .error f) :
    Blind w fun w ↦ stage.play id w told := by
  cases stage with
  | ended r => exact ⟨rfl, rfl, fun _ ↦ rfl⟩
  | outside next => exact (next told).play_blind hbusy hwriter
  | inside n rest next =>
    exact Client.playIn_blind (fun w r hbusy hwriter ↦ (next r).play_blind hbusy hwriter)
      (hinside n rest next rfl) hbusy hwriter (rest told)
  | calling v next =>
    obtain ⟨f, rfl⟩ := hstage.resolve_left (by simp [awaited?])
    exact (next (.error f)).play_blind hbusy hwriter
  | opening work next =>
    obtain ⟨f, rfl⟩ := hstage.resolve_left (by simp [awaited?])
    exact (next (.error f)).play_blind hbusy hwriter

end Stage

namespace World

theorem letGo?_withStore (w : World (Memory × ε)) (s : Store) (m : Mode) :
    (w.withStore s).letGo? m = (w.letGo? m).map (·.withStore s) := by
  have hlock : (w.withStore s).lock = w.lock := rfl
  rw [letGo?, letGo?, hlock]
  cases w.lock.leave? m with
  | error f => rfl
  | ok l =>
    change Except.ok (if l.isFreedBy m then _ else _) =
      Except.ok (withStore (if l.isFreedBy m then _ else _) s)
    split <;> rfl

/-- What a job does before a task goes on does not depend on the documents. -/
theorem deliver_withStore (w : World (Memory × ε)) (s : Store) (j : Job) :
    (w.withStore s).deliver j = ((w.deliver j).1.withStore s, (w.deliver j).2) := by
  cases j with
  | resume id r => rfl
  | recheck id m =>
    rw [deliver, deliver]
    change (if w.lock.admits m then _ else _) = _
    split <;> rfl
  | abort id m => cases m <;> rfl
  | release id m ticket =>
    rw [deliver, deliver, perform, perform, letGo?_withStore]
    cases w.letGo? m <;> rfl
  | relay id ticket r =>
    have htasks : (w.withStore s).tasks = w.tasks := rfl
    rw [deliver, deliver, perform, perform, htasks]
    cases w.tasks[id]? with
    | none => rfl
    | some p =>
      cases p with
      | finished r => rfl
      | paused t next =>
        dsimp only
        split <;> rfl

theorem memory_deliver (w : World (Memory × ε)) (j : Job) : (w.deliver j).1.memory = w.memory := by
  cases j with
  | resume id r => rfl
  | recheck id m =>
    rw [deliver]
    split <;> rfl
  | abort id m => cases m <;> rfl
  | release id m ticket =>
    rw [deliver, perform]
    cases hw : w.letGo? m with
    | error f => rfl
    | ok w' =>
      obtain ⟨l, -, halike, -, -, -⟩ := letGo?_eq_ok hw
      exact congrArg Prod.fst halike.state
  | relay id ticket r => exact congrArg Prod.fst (alike_relay w id ticket r).state

end World

end RecordStore
