import RecordStore.Proofs.Task.Waiting

/-!
# Who waits for the lock

Whatever tasks do, the lock counts the writers that wait for it, and whoever sleeps in its queue
could not enter it: one that could has been woken.  A writer is never in the lock together with
readers.

* `World.Guarded` is what the lock and its queue have to do with each other.
* `Machine.Sound.step` shows that it holds after every step, and that tasks keep their places.
-/

namespace RecordStore

namespace Lock

variable {l l' : Lock} {m m' : Mode}

/-- Whom the lock does not admit it does not admit after somebody else has entered. -/
theorem admits_enter (h : l.admits m = false) (h' : l.admits m' = true) :
    (l.enter m').admits m = false := by
  cases m <;> cases m' <;> simp_all [admits, enter]

theorem admits_desist_enter (h : l.admits m = false) (h' : l.admits m' = true) :
    ((l.desist m').enter m').admits m = false := by
  cases m <;> cases m' <;> simp_all [admits, enter, desist]

/-- One who waits does not make room for another. -/
theorem admits_await (h : l.admits m = false) : (l.await m').admits m = false := by
  cases m <;> cases m' <;> simp_all [admits, await]

/-- While readers are left, the lock admits no more than before. -/
theorem admits_leave (h : l.leave? m' = .ok l') (hfreed : l'.isFreedBy m' = false)
    (hm : l.admits m = false) : l'.admits m = false := by
  cases m' with
  | write => cases hfreed
  | read =>
    rw [leave?] at h
    split at h
    · cases h
    · cases h
      cases m <;> simp_all [admits, isFreedBy]

end Lock

namespace World

variable {σ : Type}

/-- The lock counts the writers that wait, admits nobody who sleeps in the queue, and no writer
together with readers. -/
structure Guarded (w : World σ) : Prop where
  waitingWriters : w.lock.waitingWriters = w.waiting.countP (·.2 = .write)
  asleep : ∀ p ∈ w.queue, w.lock.admits p.2 = false
  alone : w.lock.writer = true → w.lock.readers = 0

variable {w w' w₁ : World σ} {id : TaskId} {m : Mode}

theorem Guarded.alike (h : Guarded w) (ha : Alike w w') : Guarded w' where
  waitingWriters := by rw [ha.lock, ha.waiting, h.waitingWriters]
  asleep p hp := by
    rw [ha.lock]
    exact h.asleep p (ha.queue hp)
  alone := by
    rw [ha.lock]
    exact h.alone

/-- Whom the lock admits may enter it. -/
theorem Guarded.enter (h : Guarded w) (hm : w.lock.admits m = true) :
    Guarded { w with lock := w.lock.enter m } where
  waitingWriters := by
    refine Eq.trans ?_ h.waitingWriters
    cases m <;> rfl
  asleep p hp := Lock.admits_enter (h.asleep p hp) hm
  alone hwriter := by
    cases m with
    | read => simp_all [Lock.admits, Lock.enter]
    | write => simp_all [Lock.admits, Lock.enter]

theorem waiting_enqueue (w : World σ) (p : TaskId × Mode) :
    { w with queue := w.queue ++ [p] }.waiting = p ::ₘ w.waiting := by
  rw [waiting, waiting, ← Multiset.coe_add, Multiset.coe_singleton, Multiset.add_comm _ {p},
    Multiset.singleton_add, Multiset.cons_add]

theorem countP_await (l : Lock) (id : TaskId) (m : Mode) (s : Multiset (TaskId × Mode))
    (h : l.waitingWriters = s.countP (·.2 = .write)) :
    (l.await m).waitingWriters = ((id, m) ::ₘ s).countP (·.2 = .write) := by
  cases m with
  | read =>
    rw [Multiset.countP_cons_of_neg _ (by simp)]
    exact h
  | write =>
    rw [Multiset.countP_cons_of_pos _ (by simp), ← h]
    rfl

theorem countP_desist (l : Lock) (id : TaskId) (m : Mode) (s : Multiset (TaskId × Mode))
    (h : l.waitingWriters = ((id, m) ::ₘ s).countP (·.2 = .write)) :
    (l.desist m).waitingWriters = s.countP (·.2 = .write) := by
  cases m with
  | read =>
    rw [Multiset.countP_cons_of_neg _ (by simp)] at h
    exact h
  | write =>
    rw [Multiset.countP_cons_of_pos _ (by simp)] at h
    rw [Lock.desist, h]
    rfl

/-- Whom the lock does not admit begins to wait for it. -/
theorem Guarded.await (h : Guarded w) (hm : w.lock.admits m = false) (id : TaskId) :
    Guarded { w with lock := w.lock.await m, queue := w.queue ++ [(id, m)] } where
  waitingWriters := by
    have hwaiting := waiting_enqueue { w with lock := w.lock.await m } (id, m)
    rw [hwaiting]
    exact countP_await w.lock id m w.waiting h.waitingWriters
  asleep p hp := by
    rw [List.mem_append, List.mem_singleton] at hp
    rcases hp with hp | rfl
    · exact Lock.admits_await (h.asleep p hp)
    · exact Lock.admits_await hm
  alone hwriter := by
    cases m with
    | read => exact h.alone hwriter
    | write => exact h.alone hwriter

theorem Guarded.spawn (h : Guarded w) (next : Outcome Unit → Action σ Unit) :
    Guarded (w.spawn next) := by
  have hwaiting : (w.spawn next).waiting = w.waiting := waiting_push _ _
  exact ⟨hwaiting ▸ h.waitingWriters, h.asleep, h.alone⟩

/-- Leaving the lock wakes whom it now admits. -/
theorem Guarded.letGo (h : Guarded w) (hw : w.letGo? m = .ok w') : Guarded w' := by
  obtain ⟨l, hl, halike, -, -, hqueue⟩ := letGo?_eq_ok hw
  have hlock : w'.lock = l := halike.lock
  refine ⟨?_, ?_, ?_⟩
  · rw [hlock, halike.waiting]
    refine Eq.trans ?_ h.waitingWriters
    cases m <;> simp only [Lock.leave?] at hl <;> split at hl <;> cases hl <;> rfl
  · intro p hp
    rcases hqueue with hqueue | hfreed
    · rw [hqueue] at hp
      cases hp
    · rw [hlock]
      exact Lock.admits_leave hl hfreed (h.asleep p (halike.queue hp))
  · rw [hlock]
    have halone := h.alone
    cases m <;> simp only [Lock.leave?] at hl <;> split at hl <;> cases hl <;> simp_all

/-! ## Taking up a job -/

/-- The task whose turn the job is waits nowhere else. -/
theorem Placed.take {turn : Option TaskId} (h : Placed w turn) (htasks : w₁.tasks = w.tasks)
    (hplaces : w.places = id ::ₘ w₁.places) :
    (∃ next, w₁.tasks[id]? = some (.paused none next)) ∧ Placed w₁ (some id) := by
  have hnodup := h.nodup
  rw [hplaces, Multiset.nodup_cons] at hnodup
  obtain ⟨next, hnext⟩ := h.paused id (hplaces ▸ Multiset.mem_cons_self id _)
  rw [htasks]
  refine ⟨⟨next, hnext⟩, hnodup.2, ?_, ?_⟩
  · intro i hi
    rw [htasks]
    exact h.paused i (hplaces ▸ Multiset.mem_cons_of_mem hi)
  · intro i hi
    cases hi
    rw [htasks]
    exact ⟨hnodup.1, _, hnext, rfl⟩

end World

namespace Machine

variable {σ : Type} {P : Action σ Unit → Prop} {M M' : Machine σ} {w w' w₁ : World σ}
  {id : TaskId} {m : Mode} {r : Outcome Unit} {ticket : Nat}

open World

/-- Tasks keep their places, and the lock is what those who wait for it make of it. -/
structure Sound (M : Machine σ) : Prop where
  placed : Placed M.world (M.turn.map Prod.fst)
  guarded : Guarded M.world

theorem Sound.of_alike {turn : Option (TaskId × Action σ Unit)} (h : Sound ⟨w, turn⟩)
    (hw : Placed w' (turn.map Prod.fst) ∧ Alike w w') : Sound ⟨w', turn⟩ :=
  ⟨hw.1, h.guarded.alike hw.2⟩

theorem resumed?_eq (h : ∃ next, w.tasks[id]? = some (.paused none next)) (r : Outcome Unit) :
    ∃ a, w.resumed? (id, r) = some (id, a) := by
  obtain ⟨next, hnext⟩ := h
  exact ⟨next r, by rw [World.resumed?, hnext]⟩

theorem Sound.resume (h : Sound ⟨w, none⟩) (ho : Offers w (.resume id r) w₁) :
    Sound (take w₁ (.resume id r)) := by
  obtain ⟨hnext, hplaced⟩ := h.placed.take ho.tasks (ho.places_of_resumed rfl rfl)
  obtain ⟨a, ha⟩ := resumed?_eq hnext r
  have htake : take w₁ (.resume id r) = ⟨w₁, some (id, a)⟩ := congrArg _ ha
  rw [htake]
  refine ⟨hplaced, ?_, ?_, ?_⟩
  · rw [ho.lock, h.guarded.waitingWriters]
    exact congrArg _ ho.waiting
  · rw [ho.lock, ho.queue]
    exact h.guarded.asleep
  · rw [ho.lock]
    exact h.guarded.alone

theorem Sound.recheck (h : Sound ⟨w, none⟩) (ho : Offers w (.recheck id m) w₁) :
    Sound (take w₁ (.recheck id m)) := by
  have hplaces := ho.places_of_awaited rfl rfl
  have hcount := h.guarded.waitingWriters
  rw [show w.waiting = (id, m) ::ₘ w₁.waiting from ho.waiting, ← ho.lock] at hcount
  have hasleep := h.guarded.asleep
  rw [← ho.lock, ← ho.queue] at hasleep
  have halone := h.guarded.alone
  rw [← ho.lock] at halone
  by_cases hm : w₁.lock.admits m = true
  · obtain ⟨hnext, hplaced⟩ := h.placed.take ho.tasks hplaces
    obtain ⟨a, ha⟩ := resumed?_eq hnext (.ok ())
    have htake : take w₁ (.recheck id m) =
        ⟨{ w₁ with lock := (w₁.lock.desist m).enter m }, some (id, a)⟩ := by
      rw [take, deliver, if_pos hm]
      exact congrArg _ ha
    rw [htake]
    refine ⟨hplaced.change rfl (fun _ _ ↦ rfl) hplaced.busy, ?_, ?_, ?_⟩
    · refine Eq.trans ?_ (countP_desist _ _ _ _ hcount)
      cases m <;> rfl
    · exact fun p hp ↦ Lock.admits_desist_enter (hasleep p hp) hm
    · cases m <;> simp_all [Lock.admits, Lock.enter, Lock.desist]
  · have htake : take w₁ (.recheck id m) = ⟨{ w₁ with queue := w₁.queue ++ [(id, m)] }, none⟩ := by
      rw [take, deliver, if_neg hm]
      rfl
    rw [htake]
    have hwaiting : { w₁ with queue := w₁.queue ++ [(id, m)] }.waiting = w.waiting :=
      (waiting_enqueue w₁ (id, m)).trans ho.waiting.symm
    have hpausing : { w₁ with queue := w₁.queue ++ [(id, m)] }.pausing = w.pausing :=
      ho.pausing.symm
    refine ⟨h.placed.change (places_eq hwaiting hpausing) ?_ (by simp), ?_, ?_, halone⟩
    · intro i _
      simp only [ho.tasks]
    · rw [hwaiting, ho.waiting]
      exact hcount
    · intro p hp
      rw [List.mem_append, List.mem_singleton] at hp
      rcases hp with hp | rfl
      · exact hasleep p hp
      · simpa using hm

/-- A writer that gives up lets all look again whom it has held up. -/
theorem Sound.abort (h : Sound ⟨w, none⟩) (ho : Offers w (.abort id m) w₁) :
    Sound (take w₁ (.abort id m)) := by
  obtain ⟨hnext, hplaced⟩ := h.placed.take ho.tasks (ho.places_of_awaited rfl rfl)
  have hcount := h.guarded.waitingWriters
  rw [show w.waiting = (id, m) ::ₘ w₁.waiting from ho.waiting, ← ho.lock] at hcount
  have halone := h.guarded.alone
  rw [← ho.lock] at halone
  obtain ⟨a, ha⟩ := resumed?_eq hnext (.error .cancelled)
  cases m with
  | read =>
    have htake : take w₁ (.abort id .read) = ⟨w₁, some (id, a)⟩ := congrArg _ ha
    rw [htake]
    refine ⟨hplaced, countP_desist w₁.lock id .read _ hcount, ?_, halone⟩
    rw [ho.lock, ho.queue]
    exact h.guarded.asleep
  | write =>
    have htake : take w₁ (.abort id .write) =
        ⟨{ w₁ with lock := w₁.lock.desist .write }.wake, some (id, a)⟩ := congrArg _ ha
    rw [htake]
    refine ⟨hplaced.change (places_eq (waiting_wake _) (pausing_wake _)) (fun _ _ ↦ rfl)
      hplaced.busy, ?_, by simp [wake], halone⟩
    rw [waiting_wake]
    exact countP_desist w₁.lock id .write _ hcount

/-- Nobody's turn comes with a job that leaves the lock or tells of it. -/
theorem Sound.of_no_turn (h : Sound ⟨w, none⟩) {j : Job} (ho : Offers w j w₁)
    (hj : j.awaited? = none) (hj' : j.resumed? = none) : Sound ⟨w₁, none⟩ := by
  refine ⟨h.placed.change (ho.places_of_none hj hj') ?_ (by simp), ?_, ?_, ?_⟩
  · intro i _
    simp only [ho.tasks]
  · have hwaiting := ho.waiting
    rw [hj, Option.elim_none] at hwaiting
    have hcount := h.guarded.waitingWriters
    rwa [hwaiting, ← ho.lock] at hcount
  · have hasleep := h.guarded.asleep
    rwa [← ho.lock, ← ho.queue] at hasleep
  · have halone := h.guarded.alone
    rwa [← ho.lock] at halone

/-- A job that is pushed for nobody's turn changes nothing. -/
theorem Sound.push {turn : Option (TaskId × Action σ Unit)} (h : Sound ⟨w, turn⟩) {j : Job}
    (hj : j.awaited? = none) (hj' : j.resumed? = none) : Sound ⟨w.push j, turn⟩ := by
  have hwaiting : (w.push j).waiting = w.waiting := by rw [waiting_push, hj, Option.elim_none]
  have hpausing : (w.push j).pausing = w.pausing := by rw [pausing_push, hj', Option.elim_none]
  refine ⟨h.placed.change (places_eq hwaiting hpausing) (fun _ _ ↦ rfl) ?_, ?_, h.guarded.asleep,
    h.guarded.alone⟩
  · intro i hi
    exact h.placed.busy i hi
  · rw [hwaiting]
    exact h.guarded.waitingWriters

theorem Sound.letGo {turn : Option (TaskId × Action σ Unit)} (h : Sound ⟨w, turn⟩)
    (hw : w.letGo? m = .ok w') : Sound ⟨w', turn⟩ := by
  obtain ⟨l, -, halike, hpausing, htasks, -⟩ := letGo?_eq_ok hw
  refine ⟨h.placed.change (places_eq halike.waiting hpausing) ?_ ?_, h.guarded.letGo hw⟩
  · intro i _
    simp only [htasks]
  · intro i hi
    simp only [htasks]
    exact h.placed.busy i hi

theorem Sound.release (h : Sound ⟨w, none⟩) (ho : Offers w (.release id m ticket) w₁) :
    Sound (take w₁ (.release id m ticket)) := by
  have hrest := h.of_no_turn ho rfl rfl
  have htake : take w₁ (.release id m ticket) = ⟨w₁.perform (.release id m ticket), none⟩ := rfl
  rw [htake, perform]
  split
  · rename_i w' hw'
    exact (hrest.letGo hw').push rfl rfl
  · exact hrest.push rfl rfl

/-- A task that learns that the lock was left for it has waited for nothing else. -/
theorem Sound.relay (h : Sound ⟨w, none⟩) (ho : Offers w (.relay id ticket r) w₁) :
    Sound (take w₁ (.relay id ticket r)) := by
  have hrest := h.of_no_turn ho rfl rfl
  have htake : take w₁ (.relay id ticket r) = ⟨w₁.perform (.relay id ticket r), none⟩ := rfl
  rw [htake, perform]
  split
  · rename_i t next htask
    split
    · rename_i hticket
      subst hticket
      exact hrest.of_alike (hrest.placed.resume_ticketed (by simp) htask r)
    · exact hrest
  · exact hrest

theorem Sound.take (h : Sound ⟨w, none⟩) {before after : List Job} {j : Job}
    (hready : w.ready = before ++ j :: after) :
    Sound (take { w with ready := before ++ after } j) := by
  have ho := offers hready
  cases j with
  | resume id r => exact h.resume ho
  | recheck id m => exact h.recheck ho
  | abort id m => exact h.abort ho
  | release id m ticket => exact h.release ho
  | relay id ticket r => exact h.relay ho

/-! ## Going on with a task -/

/-- The task whose turn it is ends, or waits for its job to leave the lock. -/
theorem Sound.settle {a : Action σ Unit} (h : Sound ⟨w, some (id, a)⟩) (p : Progress σ) :
    Sound ⟨w.mark id p, none⟩ := by
  refine ⟨h.placed.change rfl ?_ (by simp), ⟨h.guarded.waitingWriters, h.guarded.asleep,
    h.guarded.alone⟩⟩
  intro i hi
  have hne : id ≠ i := fun heq ↦ (h.placed.busy id rfl).1 (heq ▸ hi)
  exact (getElem?_mark w id p i).trans (if_neg hne)

/-- The task whose turn it is begins to wait in some place. -/
theorem Sound.pause {a : Action σ Unit} (h : Sound ⟨w, some (id, a)⟩)
    (hplaces : w'.places = id ::ₘ w.places) (htasks : w'.tasks = w.tasks) (hguarded : Guarded w')
    (next : Outcome Unit → Action σ Unit) : Sound ⟨w'.mark id (.paused none next), none⟩ := by
  obtain ⟨hnot, p, hp, -⟩ := h.placed.busy id rfl
  have hlookup (i : TaskId) : (w'.mark id (.paused none next)).tasks[i]? =
      if id = i then (w.tasks[i]?).map fun _ ↦ .paused none next else w.tasks[i]? := by
    rw [getElem?_mark, htasks]
  refine ⟨h.placed.insert hnot hplaces ?_ ⟨next, ?_⟩ (by simp),
    ⟨hguarded.waitingWriters, hguarded.asleep, hguarded.alone⟩⟩
  · intro i hi
    have hne : id ≠ i := fun heq ↦ hnot (heq ▸ hi)
    exact (hlookup i).trans (if_neg hne)
  · rw [hlookup, if_pos rfl, hp]
    rfl

theorem Sound.pause_push {a : Action σ Unit} (h : Sound ⟨w, some (id, a)⟩) (r : Outcome Unit)
    (next : Outcome Unit → Action σ Unit) :
    Sound ⟨(w.push (.resume id r)).mark id (.paused none next), none⟩ :=
  h.pause (places_push_resume w id r) rfl
    (h.guarded.alike ⟨rfl, rfl, List.Subset.refl _, waiting_push _ _, releasing_push _ _, rfl, rfl⟩)
    next

theorem Sound.ask {q : Request} {next : Outcome Unit → Action σ Unit}
    (h : Sound ⟨w, some (id, .ask q next)⟩) : Sound (go w id (.ask q next)) := by
  have hbusy {w' : World σ} (h' : Sound ⟨w', some (id, .ask q next)⟩) (r : Outcome Unit) :
      Sound ⟨w', some (id, next r)⟩ := ⟨h'.placed, h'.guarded⟩
  rw [Machine.go]
  cases q with
  | enter m =>
    rw [serve]
    by_cases hm : w.lock.admits m = true
    · rw [if_pos hm]
      exact ⟨h.placed.change rfl (fun _ _ ↦ rfl) h.placed.busy, h.guarded.enter hm⟩
    · rw [if_neg hm]
      have hguarded := h.guarded.await (by simpa using hm : w.lock.admits m = false) id
      have hwaiting := waiting_enqueue { w with lock := w.lock.await m } (id, m)
      have hplaces : { w with lock := w.lock.await m, queue := w.queue ++ [(id, m)] }.places =
          id ::ₘ w.places := by
        rw [places, hwaiting, Multiset.map_cons, Multiset.cons_add]
        rfl
      exact h.pause hplaces rfl hguarded next
  | leave m =>
    have hpush : Sound ⟨w.push (.release id m w.tickets), some (id, .ask (.leave m) next)⟩ :=
      h.push rfl rfl
    have hleft : Sound ⟨{ w.push (.release id m w.tickets) with tickets := w.tickets + 1 },
        some (id, .ask (.leave m) next)⟩ :=
      ⟨hpush.placed.change rfl (fun _ _ ↦ rfl) hpush.placed.busy,
        ⟨hpush.guarded.waitingWriters, hpush.guarded.asleep, hpush.guarded.alone⟩⟩
    exact hleft.settle _
  | letGo m =>
    rw [serve]
    cases hleft : w.letGo? m with
    | ok w' => exact hbusy (h.letGo hleft) _
    | error f => exact hbusy h _
  | gate g =>
    rw [serve]
    by_cases hg : w.gates.contains g = true
    · rw [if_pos hg]
      exact hbusy h _
    · rw [if_neg hg]
      have hpausing : { w with gateQueue := w.gateQueue ++ [(id, g)] }.pausing =
          id ::ₘ w.pausing := by
        rw [pausing, pausing, ← Multiset.coe_add, Multiset.map_add, Multiset.coe_singleton,
          Multiset.map_singleton, Multiset.add_comm _ {id}, Multiset.singleton_add,
          Multiset.cons_add]
      have hplaces : { w with gateQueue := w.gateQueue ++ [(id, g)] }.places = id ::ₘ w.places := by
        rw [places, hpausing, Multiset.add_cons]
        rfl
      exact h.pause hplaces rfl
        ⟨h.guarded.waitingWriters, h.guarded.asleep, h.guarded.alone⟩ next
  | openGate g =>
    have halike := alike_openGate w g
    exact hbusy (h.of_alike ⟨h.placed.change (places_eq halike.waiting (pausing_openGate w g))
      (fun _ _ ↦ rfl) h.placed.busy, halike⟩) _
  | cancel i =>
    rw [serve]
    by_cases hi : i = id
    · rw [if_pos hi]
      exact h.pause_push _ next
    · rw [if_neg hi]
      exact hbusy (h.of_alike (h.placed.cancel (by simpa using Ne.symm hi))) _
  | yield => exact h.pause_push _ next

/-- A task that does one thing more keeps its place and that of all others. -/
theorem Sound.go {a : Action σ Unit} (h : Sound ⟨w, some (id, a)⟩) : Sound (go w id a) := by
  have hbusy (a' : Action σ Unit) : Sound ⟨w, some (id, a')⟩ := ⟨h.placed, h.guarded⟩
  cases a with
  | done r => exact h.settle _
  | exit r => exact h.settle _
  | look next => exact hbusy _
  | put s next =>
    exact ⟨h.placed.change rfl (fun _ _ ↦ rfl) h.placed.busy,
      ⟨h.guarded.waitingWriters, h.guarded.asleep, h.guarded.alone⟩⟩
  | self next => exact hbusy _
  | lock next => exact hbusy _
  | ends next => exact hbusy _
  | fork next => exact ⟨h.placed.spawn _, h.guarded.spawn _⟩
  | ask q next => exact h.ask

/-! ## Every step -/

theorem sound_start (s : σ) : Sound ⟨.ofState s, none⟩ :=
  ⟨⟨Multiset.nodup_zero, by simp [World.places, waiting, pausing, World.ofState], by simp⟩,
    ⟨rfl, by simp [World.ofState], fun h ↦ by cases h⟩⟩

/-- What holds of the lock and of the places holds after every step. -/
theorem Sound.step {grip : Option Grip} (h : Sound M) (hstep : Step P M grip M') : Sound M' := by
  cases hstep with
  | take hready => exact h.take hready
  | go => exact h.go
  | cancel id => exact h.of_alike (h.placed.cancel (by simp))
  | spawn hnext => exact ⟨h.placed.spawn _, h.guarded.spawn _⟩
  | assign hend ha =>
    refine ⟨h.placed.change rfl (fun _ _ ↦ rfl) ?_, h.guarded⟩
    intro i hi
    cases hi
    refine ⟨fun hmem ↦ ?_, _, hend, rfl⟩
    obtain ⟨next, hnext⟩ := h.placed.paused _ hmem
    rw [hend] at hnext
    cases hnext

theorem Reached.sound {holders : Multiset (TaskId × Mode)} (h : Reached P M holders) :
    Sound M := by
  induction h with
  | start s => exact sound_start s
  | step _ hstep ih => exact ih.step hstep

end Machine

end RecordStore
