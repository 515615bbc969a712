import RecordStore.Proofs.Memory.Caller
import RecordStore.Proofs.Task.Exclusion

/-!
# Scoped handles exclude each other

However tasks use the handles they have got hold of, at most one transaction has not ended at any
moment, and it has the lock to itself.  Once a transaction has ended, its handle is dead: every call
on it is answered at once and leaves everything as it is.

* `Memory.Exclusive` is what holds of the memory alone.
* `Machine.Minds` ties it to the lock: whatever holds the lock is a job that will leave it, the
  transaction that has not ended or the task whose turn it is.  `Machine.Minds.step` shows that
  every step keeps it.
* `Machine.scoped_exclusive` is the theorem above.
-/

namespace RecordStore

namespace Lock

variable {l : Lock} {m : Mode}

/-- How often the lock is held in a mode. -/
def count (l : Lock) : Mode → Nat
  | .read => l.readers
  | .write => if l.writer then 1 else 0

theorem count_enter (h : l.admits m = true) (m' : Mode) :
    (l.enter m).count m' = l.count m' + if m = m' then 1 else 0 := by
  cases m <;> cases m' <;> simp_all [admits, enter, count]

theorem count_await (l : Lock) (m m' : Mode) : (l.await m).count m' = l.count m' := by
  cases m <;> cases m' <;> rfl

theorem count_desist (l : Lock) (m m' : Mode) : (l.desist m).count m' = l.count m' := by
  cases m <;> cases m' <;> rfl

theorem admits_desist (h : l.admits m = true) : (l.desist m).admits m = true := by
  cases m
  · exact h
  · exact h

/-- A lock that is held can be left. -/
theorem exists_leave? (h : 0 < l.count m) :
    ∃ l', l.leave? m = .ok l' ∧ ∀ m', l'.count m' + (if m = m' then 1 else 0) = l.count m' := by
  cases m with
  | read =>
    have hreaders : l.readers ≠ 0 := Nat.ne_of_gt h
    refine ⟨{ l with readers := l.readers - 1 }, if_neg hreaders, fun m' ↦ ?_⟩
    cases m' with
    | read => exact Nat.succ_pred_eq_of_ne_zero hreaders
    | write => rfl
  | write =>
    have hwriter : l.writer = true := by
      by_contra hwriter
      rw [count, if_neg hwriter] at h
      exact Nat.lt_irrefl 0 h
    refine ⟨{ l with writer := false }, if_pos hwriter, fun m' ↦ ?_⟩
    cases m' with
    | read => rfl
    | write => simp [count, hwriter]

end Lock

namespace Memory

variable {m m' m'' : Memory} {held held' : Option Mode}

/-- At most one transaction has not ended, and its owner is known. -/
def Exclusive (m : Memory) : Prop :=
  ∀ n, m.isActive (.inScope n) = true →
    m.owner.isSome = true ∧ ∀ k, m.isActive (.inScope k) = true → k = n

/-- How often the lock is held for a transaction, or by a task that has it in mode `held`. -/
def due (m : Memory) (held : Option Mode) (mode : Mode) : Nat :=
  (if m.owner.isSome = true ∧ mode = .write then 1 else 0) + if held = some mode then 1 else 0

/-- Transactions are added to the list, and what has ended stays so. -/
structure Later (m m' : Memory) : Prop where
  length : m.scopes.length ≤ m'.scopes.length
  ended : ∀ n < m.scopes.length, m.isActive (.inScope n) = false →
    m'.isActive (.inScope n) = false

theorem Later.refl (m : Memory) : Later m m := ⟨Nat.le_refl _, fun _ _ h ↦ h⟩

theorem Later.trans (h : Later m m') (h' : Later m' m'') : Later m m'' where
  length := Nat.le_trans h.length h'.length
  ended n hn hended := h'.ended n (Nat.lt_of_lt_of_le hn h.length) (h.ended n hn hended)

theorem Passes.later (h : m.Passes held m' held') : m.Later m' := by
  cases h with
  | store s => exact ⟨Nat.le_refl _, fun n _ hn ↦ hn⟩
  | opened id =>
    refine ⟨by simp [Memory.opened], fun n hlt hn ↦ ?_⟩
    rw [← Bool.not_eq_true, isActive_opened, not_or, Bool.not_eq_true]
    exact ⟨Nat.ne_of_lt hlt, hn⟩
  | ended hactive =>
    refine ⟨by simp [Memory.ended], fun n _ hn ↦ ?_⟩
    rw [← Bool.not_eq_true, isActive_ended, hn]
    simp

/-- A transaction is begun only where none is under way. -/
theorem Passes.exclusive (h : m.Passes held m' held') (hm : m.Exclusive)
    (howner : held = some .write → m.owner = none) : m'.Exclusive := by
  cases h with
  | store s => exact hm
  | opened id =>
    have hnone (n : Nat) : ¬m.isActive (.inScope n) = true := fun hn ↦ by
      simpa [howner rfl] using (hm n hn).1
    intro n hn
    refine ⟨rfl, fun k hk ↦ ?_⟩
    rw [(isActive_opened.mp hn).resolve_right (hnone n),
      (isActive_opened.mp hk).resolve_right (hnone k)]
  | @ended n hactive =>
    intro k hk
    obtain ⟨hne, hk⟩ := isActive_ended.mp hk
    exact absurd ((hm n hactive).2 k hk) hne

/-- The lock goes from the task to the transaction and back. -/
theorem Passes.due (h : m.Passes held m' held') (hm : m.Exclusive)
    (howner : held = some .write → m.owner = none) (mode : Mode) :
    m'.due held' mode = m.due held mode := by
  cases h with
  | store s => rfl
  | opened id => cases mode <;> simp [Memory.due, Memory.opened, howner rfl]
  | ended hactive => cases mode <;> simp [Memory.due, Memory.ended, (hm _ hactive).1]

end Memory

variable {ε : Type}

namespace World

/-- What a task that is paused goes on with is mindful, whatever it is told where it waits. -/
structure Patient (w : World (Memory × ε)) (i : TaskId)
    (next : Outcome Unit → Action (Memory × ε) Unit) : Prop where
  awaits : ∀ mode, (i, mode) ∈ w.waiting → ∀ m, (next (.ok ())).Mindful none m (some mode) ∧
    ∀ f, (next (.error f)).Mindful none m none
  pauses : (∀ mode, (i, mode) ∉ w.waiting) → ∀ m r, (next r).Mindful none m none

variable {w w' : World (Memory × ε)} {i : TaskId} {mode : Mode}
  {next : Outcome Unit → Action (Memory × ε) Unit}

theorem Patient.frame (h : Patient w i next)
    (hwaiting : ∀ mode, (i, mode) ∈ w'.waiting ↔ (i, mode) ∈ w.waiting) : Patient w' i next where
  awaits mode hmem := h.awaits mode ((hwaiting mode).mp hmem)
  pauses hnot := h.pauses fun mode hmem ↦ hnot mode ((hwaiting mode).mpr hmem)

/-- A task that waits for anything but the lock. -/
theorem patient_paused (hnot : ∀ mode, (i, mode) ∉ w.waiting)
    (h : ∀ m r, (next r).Mindful none m none) : Patient w i next where
  awaits mode hmem := absurd hmem (hnot mode)
  pauses _ := h

/-- A task that waits for the lock. -/
theorem patient_awaiting (hmode : ∀ mode', (i, mode') ∈ w.waiting ↔ mode' = mode)
    (h : ∀ m, (next (.ok ())).Mindful none m (some mode) ∧
      ∀ f, (next (.error f)).Mindful none m none) : Patient w i next where
  awaits mode' hmem := by
    rw [(hmode mode').mp hmem]
    exact h
  pauses hnot := absurd ((hmode mode).mpr rfl) (hnot mode)

end World

namespace Machine

open World

/-- Tasks are mindful, and the lock is held by the jobs that will leave it, by the transaction that
has not ended and by the task whose turn it is, where it has it in mode `held`. -/
structure Minds (M : Machine (Memory × ε)) (held : Option Mode) : Prop where
  exclusive : M.world.memory.Exclusive
  count : ∀ mode, M.world.lock.count mode =
    M.world.releasing.countP (·.2 = mode) + M.world.memory.due held mode
  busy : ∀ p ∈ M.turn, p.2.Mindful none M.world.memory held
  idle : M.turn = none → held = none
  patient : ∀ i next, i ∉ M.turn.map Prod.fst → M.world.onward i = some next →
    M.world.Patient i next

variable {M M' : Machine (Memory × ε)} {w w' w₁ : World (Memory × ε)}
  {turn turn' : Option (TaskId × Action (Memory × ε) Unit)} {held held' : Option Mode}
  {id i : TaskId} {mode : Mode} {r : Outcome Unit} {ticket : Nat}
  {next : Outcome Unit → Action (Memory × ε) Unit} {a a' : Action (Memory × ε) Unit}

/-- A task that has the lock to itself is in no transaction. -/
theorem Minds.owner (h : Minds M held) (hheld : held = some .write) :
    M.world.memory.owner = none := by
  have hcount := h.count .write
  rw [Lock.count, Memory.due, hheld] at hcount
  by_contra hsome
  rw [← ne_eq, Option.ne_none_iff_isSome] at hsome
  simp only [hsome] at hcount
  split at hcount <;> simp at hcount

/-- Tasks that only move from one place to another stay as they are. -/
theorem Minds.rearrange (h : Minds ⟨w, turn⟩ held) (hstate : w'.state = w.state)
    (honward : w'.onward = w.onward) (hwaiting : w'.waiting = w.waiting)
    (hcount : ∀ mode, w'.lock.count mode =
      w'.releasing.countP (·.2 = mode) + w.memory.due held mode) : Minds ⟨w', turn⟩ held where
  exclusive := by
    rw [memory, hstate]
    exact h.exclusive
  count mode := by
    rw [memory, hstate]
    exact hcount mode
  busy p hp := by
    rw [memory, hstate]
    exact h.busy p hp
  idle := h.idle
  patient i next hi hnext := by
    rw [honward] at hnext
    exact (h.patient i next hi hnext).frame fun mode ↦ by rw [hwaiting]

theorem Minds.alike (h : Minds ⟨w, turn⟩ held) (ha : Alike w w') : Minds ⟨w', turn⟩ held := by
  refine h.rearrange ha.state ha.onward ha.waiting fun mode ↦ ?_
  rw [ha.lock, ha.releasing]
  exact h.count mode

/-- One task goes on, and all others wait as they did. -/
theorem Minds.goesOn (id : TaskId) (h : Minds ⟨w, turn⟩ held) (hturn : ∀ p ∈ turn, p.1 = id)
    (hturn' : ∀ p ∈ turn', p.1 = id ∧ p.2.Mindful none w.memory held')
    (hidle : turn' = none → held' = none ∧ ∀ next, w'.onward id = some next → Patient w' id next)
    (hstate : w'.state = w.state) (honward : ∀ i ≠ id, w'.onward i = w.onward i)
    (hwaiting : ∀ i ≠ id, ∀ mode, (i, mode) ∈ w'.waiting ↔ (i, mode) ∈ w.waiting)
    (hcount : ∀ mode, w'.lock.count mode =
      w'.releasing.countP (·.2 = mode) + w.memory.due held' mode) : Minds ⟨w', turn'⟩ held' where
  exclusive := by
    rw [memory, hstate]
    exact h.exclusive
  count mode := by
    rw [memory, hstate]
    exact hcount mode
  busy p hp := by
    rw [memory, hstate]
    exact (hturn' p hp).2
  idle hnone := (hidle hnone).1
  patient i next hi hnext := by
    by_cases heq : i = id
    · subst heq
      cases turn' with
      | none => exact (hidle rfl).2 next hnext
      | some p => exact absurd (congrArg some (hturn' p rfl).1) hi
    · have hnot : i ∉ turn.map Prod.fst := by
        intro hmem
        obtain ⟨p, hp, rfl⟩ := Option.mem_map.mp hmem
        exact heq (hturn p hp)
      exact (h.patient i next hnot (honward i heq ▸ hnext)).frame (hwaiting i heq)

/-- A task that has its turn goes on without a change in what it holds. -/
theorem Minds.own (h : Minds ⟨w, some (id, a)⟩ held) (ha' : a'.Mindful none w.memory held) :
    Minds ⟨w, some (id, a')⟩ held where
  exclusive := h.exclusive
  count := h.count
  busy p hp := by
    cases hp
    exact ha'
  idle hnone := by cases hnone
  patient := h.patient

/-! ## Taking up a job -/

theorem Minds.resume (hsound : Sound ⟨w, none⟩) (h : Minds ⟨w, none⟩ held)
    (ho : Offers w (.resume id r) w₁) : Minds (Machine.take w₁ (.resume id r)) none := by
  obtain ⟨next, hnext, hnot, hturn⟩ := exists_onward hsound ho (ho.places_of_resumed rfl rfl)
  have htake : Machine.take w₁ (.resume id r) = ⟨w₁, some (id, next r)⟩ := congrArg _ (hturn r)
  have hwaiting : w.waiting = w₁.waiting := ho.waiting
  have hreleasing : w₁.releasing = w.releasing := ho.releasing.symm
  have hpauses := (h.patient id next (by simp) hnext).pauses (hwaiting ▸ hnot)
  obtain rfl := h.idle rfl
  rw [htake]
  refine h.goesOn id (by simp) ?_ (by simp) ho.state (fun i _ ↦ congrFun ho.onward i)
    (fun i _ mode ↦ by rw [hwaiting]) fun mode ↦ ?_
  · rintro _ ⟨⟩
    exact ⟨rfl, hpauses _ r⟩
  · rw [ho.lock, hreleasing]
    exact h.count mode

theorem Minds.recheck (hsound : Sound ⟨w, none⟩) (h : Minds ⟨w, none⟩ held)
    (ho : Offers w (.recheck id mode) w₁) :
    ∃ held', Minds (Machine.take w₁ (.recheck id mode)) held' := by
  obtain ⟨next, hnext, -, hturn⟩ := exists_onward hsound ho (ho.places_of_awaited rfl rfl)
  have hwaiting : w.waiting = (id, mode) ::ₘ w₁.waiting := ho.waiting
  have hreleasing : w₁.releasing = w.releasing := ho.releasing.symm
  by_cases hm : w₁.lock.admits mode = true
  · have htake : Machine.take w₁ (.recheck id mode) =
        ⟨{ w₁ with lock := (w₁.lock.desist mode).enter mode }, some (id, next (.ok ()))⟩ := by
      rw [Machine.take, deliver, if_pos hm]
      exact congrArg _ (hturn (.ok ()))
    have hawaits := (h.patient id next (by simp) hnext).awaits mode (by simp [hwaiting])
    obtain rfl := h.idle rfl
    rw [htake]
    refine ⟨some mode, h.goesOn id (by simp) ?_ (by simp) ho.state
      (fun i _ ↦ congrFun ho.onward i) (fun i hi mode' ↦ ?_) fun mode' ↦ ?_⟩
    · rintro _ ⟨⟩
      exact ⟨rfl, (hawaits _).1⟩
    · rw [hwaiting]
      exact (mem_waiting_cons hi mode').symm
    · change _ = w₁.releasing.countP _ + _
      have hcount := h.count mode'
      rw [Lock.count_enter (Lock.admits_desist hm), Lock.count_desist, ho.lock, hreleasing, hcount]
      simp [Memory.due, Nat.add_assoc]
  · have htake : Machine.take w₁ (.recheck id mode) =
        ⟨{ w₁ with queue := w₁.queue ++ [(id, mode)] }, none⟩ := by
      rw [Machine.take, deliver, if_neg hm]
      rfl
    rw [htake]
    refine ⟨held, h.rearrange ho.state ho.onward ?_ fun mode' ↦ ?_⟩
    · exact (waiting_enqueue w₁ (id, mode)).trans hwaiting.symm
    · change w₁.lock.count mode' = w₁.releasing.countP _ + _
      rw [ho.lock, hreleasing]
      exact h.count mode'

theorem Minds.abort (hsound : Sound ⟨w, none⟩) (h : Minds ⟨w, none⟩ held)
    (ho : Offers w (.abort id mode) w₁) : Minds (Machine.take w₁ (.abort id mode)) none := by
  obtain ⟨next, hnext, -, hturn⟩ := exists_onward hsound ho (ho.places_of_awaited rfl rfl)
  have hwaiting : w.waiting = (id, mode) ::ₘ w₁.waiting := ho.waiting
  have hreleasing : w₁.releasing = w.releasing := ho.releasing.symm
  have hawaits := (h.patient id next (by simp) hnext).awaits mode (by simp [hwaiting])
  obtain rfl := h.idle rfl
  -- a writer that gives up wakes others, which only moves them
  obtain ⟨w', htake, halike⟩ : ∃ w', Machine.take w₁ (.abort id mode) =
      ⟨w', some (id, next (.error .cancelled))⟩ ∧
        Alike { w₁ with lock := w₁.lock.desist mode } w' := by
    cases mode with
    | read => exact ⟨_, congrArg _ (hturn _), .refl _⟩
    | write => exact ⟨_, congrArg _ (hturn _), alike_wake _⟩
  rw [htake]
  refine h.goesOn id (by simp) ?_ (by simp) (halike.state.trans ho.state) (fun i _ ↦ ?_)
    (fun i hi mode' ↦ ?_) fun mode' ↦ ?_
  · rintro _ ⟨⟩
    exact ⟨rfl, (hawaits _).2 _⟩
  · rw [halike.onward]
    exact congrFun ho.onward i
  · rw [halike.waiting, hwaiting]
    exact (mem_waiting_cons hi mode').symm
  · rw [halike.lock, halike.releasing, Lock.count_desist]
    change _ = w₁.releasing.countP _ + _
    rw [ho.lock, hreleasing]
    exact h.count mode'

/-- A job that is to leave the lock finds it held. -/
theorem Minds.release (h : Minds ⟨w, none⟩ held) (ho : Offers w (.release id mode ticket) w₁) :
    Minds (Machine.take w₁ (.release id mode ticket)) held := by
  have hreleasing : w.releasing = (id, mode) ::ₘ w₁.releasing := ho.releasing
  have hcount (mode' : Mode) : w₁.lock.count mode' =
      (w₁.releasing.countP (·.2 = mode') + if mode = mode' then 1 else 0) +
        w.memory.due held mode' := by
    have hbefore := h.count mode'
    rwa [hreleasing, Multiset.countP_cons, ← ho.lock] at hbefore
  have hpos : 0 < w₁.lock.count mode := by
    rw [hcount mode, if_pos rfl]
    omega
  obtain ⟨l, hl, hleft⟩ := Lock.exists_leave? hpos
  obtain ⟨w', hw'⟩ := World.exists_letGo? hl
  obtain ⟨l', hl', halike, -, -, -⟩ := letGo?_eq_ok hw'
  obtain rfl := Except.ok.inj (hl'.symm.trans hl)
  have htake : Machine.take w₁ (.release id mode ticket) =
      ⟨w'.push (.relay id ticket (.ok ())), none⟩ := by
    rw [Machine.take, deliver, perform, hw']
    rfl
  rw [htake]
  refine h.rearrange (halike.state.trans ho.state) (halike.onward.trans ho.onward) ?_ fun mode' ↦ ?_
  · exact (waiting_push _ _).trans (halike.waiting.trans ho.waiting.symm)
  · have hpush : (w'.push (.relay id ticket (.ok ()))).releasing = w₁.releasing :=
      (releasing_push _ _).trans halike.releasing
    have hlock : (w'.push (.relay id ticket (.ok ()))).lock = l' := halike.lock
    have hafter := hleft mode'
    rw [hcount mode'] at hafter
    rw [hpush, hlock]
    omega

theorem Minds.relay (h : Minds ⟨w, none⟩ held) (ho : Offers w (.relay id ticket r) w₁) :
    Minds (Machine.take w₁ (.relay id ticket r)) held := by
  have hreleasing : w₁.releasing = w.releasing := ho.releasing.symm
  have hrest : Minds ⟨w₁, none⟩ held := by
    refine h.rearrange ho.state ho.onward ho.waiting.symm fun mode ↦ ?_
    rw [ho.lock, hreleasing]
    exact h.count mode
  exact hrest.alike (alike_relay w₁ id ticket r)

theorem Minds.take (hsound : Sound ⟨w, none⟩) (h : Minds ⟨w, none⟩ held)
    {before after : List Job} {j : Job} (hready : w.ready = before ++ j :: after) :
    ∃ held', Minds (Machine.take { w with ready := before ++ after } j) held' := by
  have ho := offers hready
  cases j with
  | resume id r => exact ⟨_, h.resume hsound ho⟩
  | recheck id mode => exact h.recheck hsound ho
  | abort id mode => exact ⟨_, h.abort hsound ho⟩
  | release id mode ticket => exact ⟨_, h.release ho⟩
  | relay id ticket r => exact ⟨_, h.relay ho⟩

/-! ## Going on with a task -/

/-- The task whose turn it is begins to wait for something other than the lock. -/
theorem Minds.pause (w' : World (Memory × ε)) (hsound : Sound ⟨w, some (id, a)⟩)
    (h : Minds ⟨w, some (id, a)⟩ held) (hnext : ∀ m r, (next r).Mindful none m none)
    (htasks : w'.tasks = w.tasks) (hstate : w'.state = w.state) (hwaiting : w'.waiting = w.waiting)
    (hcount : ∀ mode, w'.lock.count mode =
      w'.releasing.countP (·.2 = mode) + w.memory.due none mode) (ticket : Option Nat) :
    Minds ⟨w'.mark id (.paused ticket next), none⟩ none := by
  obtain ⟨hid, hothers⟩ := hsound.onward_mark htasks (.paused ticket next)
  have hmarked : (w'.mark id (.paused ticket next)).waiting = w.waiting := hwaiting
  refine h.goesOn id (by simp) (by simp) (fun _ ↦ ⟨rfl, fun next' hnext' ↦ ?_⟩) hstate hothers
    (fun i _ mode ↦ by rw [hmarked]) hcount
  rw [hid] at hnext'
  cases hnext'
  exact patient_paused (fun mode ↦ hmarked ▸ hsound.notMem_waiting mode) hnext

theorem Minds.pause_push (hsound : Sound ⟨w, some (id, a)⟩) (h : Minds ⟨w, some (id, a)⟩ none)
    (hnext : ∀ m r, (next r).Mindful none m none) (r : Outcome Unit) :
    Minds ⟨(w.push (.resume id r)).mark id (.paused none next), none⟩ none := by
  refine h.pause (w.push (.resume id r)) hsound hnext rfl rfl (waiting_push w _)
    (fun mode ↦ ?_) none
  rw [releasing_push]
  exact h.count mode

theorem Minds.finish (hsound : Sound ⟨w, some (id, a)⟩) (h : Minds ⟨w, some (id, a)⟩ none)
    (r : Outcome Unit) : Minds ⟨w.mark id (.finished r), none⟩ none := by
  obtain ⟨hid, hothers⟩ := hsound.onward_mark rfl (.finished r)
  refine h.goesOn id (by simp) (by simp) (fun _ ↦ ⟨rfl, fun next hnext ↦ ?_⟩) rfl hothers
    (fun _ _ _ ↦ Iff.rfl) h.count
  rw [hid] at hnext
  cases hnext

/-- What a task writes keeps the rules of transactions. -/
theorem Minds.put {s : Memory × ε} (h : Minds ⟨w, some (id, .put s a)⟩ held) :
    ∃ held', Minds ⟨{ w with state := s }, some (id, a)⟩ held' := by
  obtain ⟨held', hpasses, hnext⟩ := h.busy _ rfl
  refine ⟨held', hpasses.exclusive h.exclusive h.owner, fun mode ↦ ?_, ?_, by simp, ?_⟩
  · change w.lock.count mode = w.releasing.countP _ + s.1.due held' mode
    rw [hpasses.due h.exclusive h.owner mode]
    exact h.count mode
  · rintro _ ⟨⟩
    exact hnext
  · exact fun i next hi hnext ↦ (h.patient i next hi hnext).frame fun _ ↦ Iff.rfl

/-- A new task waits for its first turn. -/
theorem Minds.spawn (hsound : Sound ⟨w, turn⟩) (h : Minds ⟨w, turn⟩ held)
    (hnext : ∀ m r, (next r).Mindful none m none) : Minds ⟨w.spawn next, turn⟩ held := by
  have hwaiting : (w.spawn next).waiting = w.waiting := waiting_push _ _
  refine ⟨h.exclusive, fun mode ↦ ?_, h.busy, h.idle, fun i next' hi hnext' ↦ ?_⟩
  · have hreleasing : (w.spawn next).releasing = w.releasing := releasing_push _ _
    change w.lock.count mode = (w.spawn next).releasing.countP _ + w.memory.due held mode
    rw [hreleasing]
    exact h.count mode
  · change (w.spawn next).onward i = some next' at hnext'
    rw [onward_spawn] at hnext'
    split at hnext'
    · rename_i hnew
      cases hnext'
      refine patient_paused (fun mode hmem ↦ ?_) hnext
      rw [hwaiting] at hmem
      obtain ⟨next', hpaused⟩ := hsound.placed.paused i
        (Multiset.mem_add.mpr (.inl (Multiset.mem_map.mpr ⟨_, hmem, rfl⟩)))
      rw [hnew] at hpaused
      simp at hpaused
    · exact (h.patient i next' hi hnext').frame fun mode ↦ by rw [hwaiting]

/-- Entering the lock, or beginning to wait for it. -/
theorem Minds.enter (hsound : Sound ⟨w, some (id, .ask (.enter mode) next)⟩)
    (h : Minds ⟨w, some (id, .ask (.enter mode) next)⟩ held) :
    ∃ held', Minds (Machine.go w id (.ask (.enter mode) next)) held' := by
  obtain ⟨rfl, hnext⟩ := h.busy _ rfl
  by_cases hm : w.lock.admits mode = true
  · have hgo : Machine.go w id (.ask (.enter mode) next) =
        ⟨{ w with lock := w.lock.enter mode }, some (id, next (.ok ()))⟩ := by
      rw [Machine.go, serve, if_pos hm]
    rw [hgo]
    refine ⟨some mode, h.goesOn id (by simp) ?_ (by simp) rfl (fun _ _ ↦ rfl)
      (fun _ _ _ ↦ Iff.rfl) fun mode' ↦ ?_⟩
    · rintro _ ⟨⟩
      exact ⟨rfl, (hnext _).1⟩
    · have hcount := h.count mode'
      change (w.lock.enter mode).count mode' = w.releasing.countP _ + _
      rw [Lock.count_enter hm, hcount]
      simp [Memory.due, Nat.add_assoc]
  · have hgo : Machine.go w id (.ask (.enter mode) next) =
        ⟨{ w with lock := w.lock.await mode, queue := w.queue ++ [(id, mode)] }.mark id
          (.paused none next), none⟩ := by
      rw [Machine.go, serve, if_neg hm]
    rw [hgo]
    generalize hw' : { w with lock := w.lock.await mode, queue := w.queue ++ [(id, mode)] } = w'
    have hwaiting : (w'.mark id (.paused none next)).waiting = (id, mode) ::ₘ w.waiting := by
      rw [← hw']
      exact waiting_enqueue { w with lock := w.lock.await mode } (id, mode)
    obtain ⟨hid, hothers⟩ := hsound.onward_mark (by rw [← hw'] : w'.tasks = w.tasks)
      (.paused none next)
    refine ⟨none, h.goesOn id (by simp) (by simp) (fun _ ↦ ⟨rfl, fun next' hnext' ↦ ?_⟩)
      (by subst hw'; rfl) hothers (fun i hi mode' ↦ ?_) fun mode' ↦ ?_⟩
    · rw [hid] at hnext'
      cases hnext'
      refine patient_awaiting (fun mode' ↦ ?_) hnext
      rw [hwaiting, Multiset.mem_cons, Prod.mk.injEq]
      simp [hsound.notMem_waiting mode']
    · rw [hwaiting]
      exact mem_waiting_cons hi mode'
    · subst hw'
      change (w.lock.await mode).count mode' = w.releasing.countP _ + _
      rw [Lock.count_await]
      exact h.count mode'

/-- Leaving the lock by a job, which holds it until then. -/
theorem Minds.leave (hsound : Sound ⟨w, some (id, .ask (.leave mode) next)⟩)
    (h : Minds ⟨w, some (id, .ask (.leave mode) next)⟩ held) :
    Minds (Machine.go w id (.ask (.leave mode) next)) none := by
  obtain ⟨rfl, hnext⟩ := h.busy _ rfl
  have hgo : Machine.go w id (.ask (.leave mode) next) =
      ⟨(w.leaving id mode).mark id (.paused (some w.tickets) next), none⟩ := rfl
  rw [hgo]
  refine h.pause (w.leaving id mode) hsound hnext rfl rfl (waiting_push w _) (fun mode' ↦ ?_) _
  have hreleasing : (w.leaving id mode).releasing = (id, mode) ::ₘ w.releasing :=
    releasing_push w _
  have hcount := h.count mode'
  change w.lock.count mode' = (w.leaving id mode).releasing.countP _ + _
  rw [hreleasing, Multiset.countP_cons, hcount]
  simp [Memory.due]
  omega

theorem Minds.ask {q : Request} (hsound : Sound ⟨w, some (id, .ask q next)⟩)
    (h : Minds ⟨w, some (id, .ask q next)⟩ held) :
    ∃ held', Minds (Machine.go w id (.ask q next)) held' := by
  cases q with
  | enter mode => exact h.enter hsound
  | leave mode => exact ⟨_, h.leave hsound⟩
  | letGo mode => exact (h.busy _ rfl).elim
  | gate g =>
    obtain ⟨rfl, hnext⟩ := h.busy _ rfl
    rw [Machine.go, serve]
    by_cases hg : w.gates.contains g = true
    · rw [if_pos hg]
      exact ⟨_, h.own (hnext _ _)⟩
    · rw [if_neg hg]
      exact ⟨_, h.pause { w with gateQueue := w.gateQueue ++ [(id, g)] } hsound hnext rfl rfl rfl
        h.count none⟩
  | openGate g =>
    obtain ⟨rfl, hnext⟩ := h.busy _ rfl
    exact ⟨_, (h.alike (alike_openGate w g)).own (hnext _ _)⟩
  | cancel i =>
    obtain ⟨rfl, hnext⟩ := h.busy _ rfl
    rw [Machine.go, serve]
    by_cases hi : i = id
    · rw [if_pos hi]
      exact ⟨_, h.pause_push hsound hnext _⟩
    · rw [if_neg hi]
      have halike : Alike w (w.cancel i) :=
        (hsound.placed.cancel (by simpa using Ne.symm hi)).2
      exact ⟨_, (h.alike halike).own (hnext _ _)⟩
  | yield =>
    obtain ⟨rfl, hnext⟩ := h.busy _ rfl
    exact ⟨_, h.pause_push hsound hnext _⟩

theorem Minds.go (hsound : Sound ⟨w, some (id, a)⟩) (h : Minds ⟨w, some (id, a)⟩ held) :
    ∃ held', Minds (Machine.go w id a) held' := by
  cases a with
  | done r =>
    obtain rfl : held = none := h.busy _ rfl
    exact ⟨_, h.finish hsound r⟩
  | exit r =>
    obtain rfl : held = none := h.busy _ rfl
    exact ⟨_, h.finish hsound r⟩
  | look next => exact ⟨held, h.own (h.busy _ rfl w.state.2)⟩
  | put s next => exact h.put
  | self next => exact ⟨held, h.own (h.busy _ rfl _)⟩
  | lock next => exact ⟨held, h.own (h.busy _ rfl _)⟩
  | ends next => exact ⟨held, h.own (h.busy _ rfl _)⟩
  | fork next =>
    obtain ⟨hown, hchild⟩ := h.busy _ rfl
    exact ⟨held, (h.spawn hsound hchild).own (hown _)⟩
  | ask q next => exact h.ask hsound

/-! ## Every step -/

/-- What a task may be given to do that uses any handles. -/
def IsCaller (a : Action (Memory × ε) Unit) : Prop := ∃ (ρ : Type) (c : Caller ε ρ), a = c.task

theorem IsCaller.mindful (h : IsCaller a) (m : Memory) : a.Mindful none m none := by
  obtain ⟨ρ, c, rfl⟩ := h
  exact c.mindful_task m

theorem Minds.step {grip : Option Grip} (hsound : Sound M) (h : Minds M held)
    (hstep : Step IsCaller M grip M') : ∃ held', Minds M' held' := by
  cases hstep with
  | take hready => exact h.take hsound hready
  | go => exact h.go hsound
  | cancel id => exact ⟨held, h.alike (hsound.placed.cancel (by simp)).2⟩
  | spawn hnext => exact ⟨held, h.spawn hsound fun m r ↦ (hnext r).mindful m⟩
  | @assign w id r a hend ha =>
    obtain rfl := h.idle rfl
    refine ⟨none, h.goesOn id (by simp) ?_ (by simp) rfl (fun _ _ ↦ rfl) (fun _ _ _ ↦ Iff.rfl)
      h.count⟩
    rintro _ ⟨⟩
    exact ⟨rfl, ha.mindful _⟩

/-- Only a task whose turn it is changes the state, by what it writes. -/
theorem Sound.state_step {σ : Type} {P : Action σ Unit → Prop} {M M' : Machine σ}
    {grip : Option Grip} (h : Sound M) (hstep : Step P M grip M') :
    M'.world.state = M.world.state ∨
      ∃ id s next, M.turn = some (id, .put s next) ∧ M'.world.state = s := by
  cases hstep with
  | @take w before after j hready =>
    refine .inl ?_
    cases j with
    | resume id r => rfl
    | recheck id mode =>
      rw [Machine.take, deliver]
      split <;> rfl
    | abort id mode =>
      cases mode <;> rfl
    | release id mode ticket =>
      change (World.perform _ _).state = _
      rw [perform]
      split
      · rename_i w' hw'
        obtain ⟨l, -, halike, -⟩ := letGo?_eq_ok hw'
        exact halike.state
      · rfl
    | relay id ticket r => exact (alike_relay _ id ticket r).state
  | @go w id a =>
    cases a with
    | put s next => exact .inr ⟨id, s, next, rfl, rfl⟩
    | ask q next =>
      refine .inl ?_
      cases q with
      | enter mode =>
        rw [Machine.go, serve]
        split <;> rename_i hserve <;> split at hserve <;> cases hserve <;> rfl
      | leave mode => rfl
      | letGo mode =>
        rw [Machine.go, serve]
        cases hw' : w.letGo? mode with
        | ok w' =>
          obtain ⟨l, -, halike, -⟩ := letGo?_eq_ok hw'
          exact halike.state
        | error f => rfl
      | gate g =>
        rw [Machine.go, serve]
        split <;> rename_i hserve <;> split at hserve <;> cases hserve <;> rfl
      | openGate g => rfl
      | cancel i =>
        rw [Machine.go, serve]
        by_cases hi : i = id
        · rw [if_pos hi]
          rfl
        · rw [if_neg hi]
          exact (h.placed.cancel (by simpa using Ne.symm hi)).2.state
      | yield => rfl
    | _ => exact .inl rfl
  | cancel id => exact .inl (h.placed.cancel (by simp)).2.state
  | spawn hnext => exact .inl rfl
  | assign hend ha => exact .inl rfl

/-- What has ended stays so. -/
theorem Minds.later {P : Action (Memory × ε) Unit → Prop} {grip : Option Grip} (hsound : Sound M)
    (h : Minds M held) (hstep : Step P M grip M') : M.world.memory.Later M'.world.memory := by
  rcases hsound.state_step hstep with hstate | ⟨id, s, next, hturn, hstate⟩
  · rw [memory, memory, hstate]
    exact .refl _
  · obtain ⟨held', hpasses, -⟩ := h.busy _ hturn
    rw [memory, memory, hstate]
    exact hpasses.later

/-- A machine in good order stays so, and what has ended stays so. -/
theorem Minds.leads (hsound : Sound M) (h : Minds M held) (hleads : Leads IsCaller M M') :
    Sound M' ∧ (∃ held', Minds M' held') ∧ M.world.memory.Later M'.world.memory := by
  induction hleads with
  | refl => exact ⟨hsound, ⟨held, h⟩, .refl _⟩
  | tail _ hstep ih =>
    obtain ⟨hsound', ⟨held', h'⟩, hlater⟩ := ih
    obtain ⟨grip, hstep⟩ := hstep
    exact ⟨hsound'.step hstep, h'.step hsound' hstep, hlater.trans (h'.later hsound' hstep)⟩

theorem minds_start (s : Store) (e : ε) :
    Minds (⟨.ofState ({ store := s }, e), none⟩ : Machine (Memory × ε)) none where
  exclusive n hn := by cases hn
  count mode := by cases mode <;> rfl
  busy p hp := by cases hp
  idle _ := rfl
  patient i next _ hnext := by
    rw [onward, World.ofState] at hnext
    cases i <;> cases hnext

end Machine

/-! ## Handles whose transactions have ended -/

/-- What a handle answers whose transaction has ended. -/
def HandleCall.refusal : HandleCall → Outcome HandleCall.Reply
  | verb v => ((v.early? false).getD (.error (.usage .endedHandle))).map .verb
  | inTransaction => .ok (.truth false)
  | openScope => .error (.usage .endedHandle)
  | commit => .error (.noTransaction "commit")
  | rollback => .ok .nothing

namespace World

variable {w : World (Memory × ε)} {id : TaskId} {n : Nat}

/-- A call on a handle whose transaction has ended is answered at once and changes nothing. -/
theorem advance_act_ended (hn : w.memory.isActive (.inScope n) = false) (c : HandleCall)
    (k : Outcome HandleCall.Reply → Action (Memory × ε) Unit) :
    w.advance id ((c.act (.inScope n)).andThen k) = w.advance id (k c.refusal) := by
  cases c with
  | verb v =>
    refine (congrArg _ (Action.bind_andThen _ _ _)).trans ?_
    rw [advance_call_inScope, hn, HandleCall.refusal]
    cases hearly : v.early? false with
    | some r => cases r <;> rfl
    | none => rfl
  | inTransaction =>
    refine (advance_inTransaction (.inScope n) _ k).trans ?_
    rw [hn]
    rfl
  | openScope =>
    refine (congrArg _ (Action.bind_andThen _ _ _)).trans ?_
    rw [Memory.openScope_inScope]
    change w.advance id (Action.andThen (if w.memory.isActive (.inScope n) then _ else _) _) = _
    rw [hn]
    rfl
  | commit =>
    refine (congrArg _ (Action.bind_andThen _ _ _)).trans ?_
    rw [advance_commit_inScope, hn]
    rfl
  | rollback =>
    refine (congrArg _ (Action.bind_andThen _ _ _)).trans ?_
    rw [advance_rollback_inScope, hn]
    rfl

end World

namespace Machine

variable {M : Machine (Memory × ε)} {s : Store} {e : ε}

/-- Whatever handles tasks use, and whenever: at most one transaction has not ended, and while there
is one, it has an owner and the lock is held for writing and by nobody else.  Once a transaction has
ended, it stays so, and every call on its handle is answered at once and leaves the whole world as
it is. -/
theorem scoped_exclusive (h : Leads IsCaller ⟨.ofState ({ store := s }, e), none⟩ M) :
    (∀ n, M.world.memory.isActive (.inScope n) = true →
      (∀ k, M.world.memory.isActive (.inScope k) = true → k = n) ∧
        M.world.memory.owner.isSome = true ∧ M.world.lock.writer = true ∧
        M.world.lock.readers = 0) ∧
      ∀ n < M.world.memory.scopes.length, M.world.memory.isActive (.inScope n) = false →
        ∀ M', Leads IsCaller M M' → M'.world.memory.isActive (.inScope n) = false ∧
          ∀ id, (∀ (c : HandleCall) k, M'.world.advance id ((c.act (.inScope n)).andThen k) =
              M'.world.advance id (k c.refusal)) ∧
            ∀ (ρ : Type) (work : MemoryHandle → Action (Memory × ε) ρ) k,
              M'.world.advance id ((Memory.transaction (.inScope n) work).andThen k) =
                M'.world.advance id (k (.error (.usage .endedHandle))) := by
  obtain ⟨hsound, ⟨held, hminds⟩, -⟩ := (minds_start s e).leads (sound_start _) h
  constructor
  · intro n hn
    obtain ⟨howner, hunique⟩ := hminds.exclusive n hn
    have hwriter : M.world.lock.writer = true := by
      have hcount := hminds.count .write
      by_contra hfree
      rw [Lock.count, if_neg hfree, Memory.due, if_pos ⟨howner, rfl⟩] at hcount
      omega
    exact ⟨hunique, howner, hwriter, hsound.guarded.alone hwriter⟩
  · intro n hlt hn M' hleads
    obtain ⟨-, -, hlater⟩ := hminds.leads hsound hleads
    have hended := hlater.ended n hlt hn
    refine ⟨hended, fun id ↦ ⟨World.advance_act_ended hended, fun ρ work k ↦ ?_⟩⟩
    rw [World.advance_transaction_inScope, hended]
    rfl

/-- A task that begins a transaction, ends it and begins another one. -/
def reopening : Caller Unit Unit :=
  .call .shared .openScope fun _ ↦ .call (.inScope 0) .commit fun _ ↦
    .call .shared .openScope fun _ ↦ .done (.ok ())

/-- The second transaction is under way, and the handle of the first one is dead. -/
theorem scoped_exclusive_reopening : ∃ M : Machine (Memory × Unit),
    Leads IsCaller ⟨.ofState ({}, ()), none⟩ M ∧
      M.world.memory.isActive (.inScope 1) = true ∧ M.world.lock.writer = true ∧
      0 < M.world.memory.scopes.length ∧ M.world.memory.isActive (.inScope 0) = false ∧
      ∀ (c : HandleCall) k, M.world.advance 0 ((c.act (.inScope 0)).andThen k) =
        M.world.advance 0 (k c.refusal) := by
  have hassigned : Leads IsCaller (⟨.ofState ({}, ()), none⟩ : Machine (Memory × Unit))
      ⟨.ofState ({}, ()), some (0, reopening.task)⟩ :=
    (Step.assign rfl ⟨Unit, reopening, rfl⟩).leads
  have hleads := (hassigned.trans (leads_advance _ 0 reopening.task)).trans (leads_settle 4 _)
  obtain ⟨hactive, hended⟩ := scoped_exclusive hleads
  refine ⟨_, hleads, rfl, (hactive 1 rfl).2.2.1, Nat.two_pos, rfl, ?_⟩
  exact ((hended 0 Nat.two_pos rfl _ .refl).2 0).1

end Machine

end RecordStore
