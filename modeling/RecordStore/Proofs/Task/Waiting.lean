import Mathlib.Data.Multiset.UnionInter
import RecordStore.Proofs.Outcome
import RecordStore.Proofs.Task.Machine

/-!
# Where tasks wait

A task that is paused waits in one place at most: in the queue for the lock, at a gate, in a job
that is ready, or for its own job that leaves the lock.  What opens gates, wakes or cancels tasks
only moves them from one place to another.

* `World.waiting` are the tasks inside their wait for the lock, asleep or not.
* `World.Placed` holds if no task waits in two places, and `World.Alike` if two worlds differ only
  in the places.
-/

namespace RecordStore

variable {σ : Type}

/-- The task that waits for the lock and has its turn with the job. -/
def Job.awaited? : Job → Option (TaskId × Mode)
  | .recheck id m => some (id, m)
  | .abort id m => some (id, m)
  | _ => none

/-- The task that waits for anything else and has its turn with the job. -/
def Job.resumed? : Job → Option TaskId
  | .resume id _ => some id
  | _ => none

/-- The task for which the job leaves the lock. -/
def Job.released? : Job → Option (TaskId × Mode)
  | .release id m _ => some (id, m)
  | _ => none

namespace Progress

/-- What a paused task goes on with. -/
def onward? : Progress σ → Option (Outcome Unit → Action σ Unit)
  | .paused _ next => some next
  | .finished _ => none

/-- The job that a paused task waits for. -/
def ticket? : Progress σ → Option Nat
  | .paused ticket _ => ticket
  | .finished _ => none

end Progress

namespace World

/-- The tasks inside their wait for the lock: those that sleep in the queue, and those that were
woken or cancelled and have not had their turn since. -/
def waiting (w : World σ) : Multiset (TaskId × Mode) :=
  (w.queue : Multiset (TaskId × Mode)) + (w.ready : Multiset Job).filterMap Job.awaited?

/-- The tasks at a gate and those that are ready. -/
def pausing (w : World σ) : Multiset TaskId :=
  (w.gateQueue : Multiset (TaskId × String)).map Prod.fst +
    (w.ready : Multiset Job).filterMap Job.resumed?

/-- The tasks for which a job will leave the lock. -/
def releasing (w : World σ) : Multiset (TaskId × Mode) :=
  (w.ready : Multiset Job).filterMap Job.released?

/-- All tasks that wait, but for those that wait for their job to leave the lock. -/
def places (w : World σ) : Multiset TaskId := w.waiting.map Prod.fst + w.pausing

/-- What a task goes on with. -/
def onward (w : World σ) (id : TaskId) : Option (Outcome Unit → Action σ Unit) :=
  w.tasks[id]?.bind Progress.onward?

/-- No task waits in two places, and the task that has its turn in none. -/
structure Placed (w : World σ) (turn : Option TaskId) : Prop where
  nodup : w.places.Nodup
  paused : ∀ i ∈ w.places, ∃ next, w.tasks[i]? = some (.paused none next)
  busy : ∀ i ∈ turn, i ∉ w.places ∧ ∃ p, w.tasks[i]? = some p ∧ p.ticket? = none

/-- The worlds differ only in the places in which tasks wait. -/
structure Alike (w w' : World σ) : Prop where
  state : w'.state = w.state
  lock : w'.lock = w.lock
  queue : w'.queue ⊆ w.queue
  waiting : w'.waiting = w.waiting
  releasing : w'.releasing = w.releasing
  onward : w'.onward = w.onward
  length : w'.tasks.length = w.tasks.length

variable {w w' w'' w₁ : World σ} {turn : Option TaskId} {id i : TaskId} {m : Mode}

theorem Alike.refl (w : World σ) : Alike w w :=
  ⟨rfl, rfl, List.Subset.refl _, rfl, rfl, rfl, rfl⟩

theorem Alike.trans (h : Alike w w') (h' : Alike w' w'') : Alike w w'' where
  state := h'.state.trans h.state
  lock := h'.lock.trans h.lock
  queue := List.Subset.trans h'.queue h.queue
  waiting := h'.waiting.trans h.waiting
  releasing := h'.releasing.trans h.releasing
  onward := h'.onward.trans h.onward
  length := h'.length.trans h.length

/-! ## Moving tasks -/

theorem places_eq (hwaiting : w'.waiting = w.waiting) (hpausing : w'.pausing = w.pausing) :
    w'.places = w.places := by
  rw [places, places, hwaiting, hpausing]

theorem filterMap_cons_elim {α β : Type} (f : α → Option β) (x : α) (xs : Multiset α) :
    (x ::ₘ xs).filterMap f = (f x).elim (xs.filterMap f) (· ::ₘ xs.filterMap f) := by
  cases h : f x with
  | none => exact Multiset.filterMap_cons_none _ _ h
  | some y => exact Multiset.filterMap_cons_some f _ _ h

theorem add_elim {α : Type} (s t : Multiset α) (o : Option α) :
    s + o.elim t (· ::ₘ t) = o.elim (s + t) (· ::ₘ (s + t)) := by
  cases o with
  | none => rfl
  | some x => exact Multiset.add_cons x s t

section Ready

variable {j : Job}

/-- One job more is one waiting task more, if it is the turn of one. -/
theorem waiting_of_cons (hqueue : w'.queue = w.queue)
    (hready : (w'.ready : Multiset Job) = j ::ₘ (w.ready : Multiset Job)) :
    w'.waiting = j.awaited?.elim w.waiting (· ::ₘ w.waiting) := by
  rw [waiting, hqueue, hready, filterMap_cons_elim, add_elim]
  rfl

theorem pausing_of_cons (hgates : w'.gateQueue = w.gateQueue)
    (hready : (w'.ready : Multiset Job) = j ::ₘ (w.ready : Multiset Job)) :
    w'.pausing = j.resumed?.elim w.pausing (· ::ₘ w.pausing) := by
  rw [pausing, hgates, hready, filterMap_cons_elim, add_elim]
  rfl

theorem releasing_of_cons (hready : (w'.ready : Multiset Job) = j ::ₘ (w.ready : Multiset Job)) :
    w'.releasing = j.released?.elim w.releasing (· ::ₘ w.releasing) := by
  rw [releasing, hready, filterMap_cons_elim]
  rfl

theorem ready_push (w : World σ) (j : Job) :
    ((w.push j).ready : Multiset Job) = j ::ₘ (w.ready : Multiset Job) := by
  rw [push, ← Multiset.coe_add, Multiset.coe_singleton, Multiset.add_comm, Multiset.singleton_add]

theorem waiting_push (w : World σ) (j : Job) :
    (w.push j).waiting = j.awaited?.elim w.waiting (· ::ₘ w.waiting) :=
  waiting_of_cons rfl (ready_push w j)

theorem pausing_push (w : World σ) (j : Job) :
    (w.push j).pausing = j.resumed?.elim w.pausing (· ::ₘ w.pausing) :=
  pausing_of_cons rfl (ready_push w j)

theorem releasing_push (w : World σ) (j : Job) :
    (w.push j).releasing = j.released?.elim w.releasing (· ::ₘ w.releasing) :=
  releasing_of_cons (ready_push w j)

theorem places_push_resume (w : World σ) (id : TaskId) (r : Outcome Unit) :
    (w.push (.resume id r)).places = id ::ₘ w.places := by
  have hwaiting : (w.push (.resume id r)).waiting = w.waiting := waiting_push w _
  have hpausing : (w.push (.resume id r)).pausing = id ::ₘ w.pausing := pausing_push w _
  rw [places, hwaiting, hpausing, Multiset.add_cons]
  rfl

/-- The second world is the first one without one of its jobs. -/
structure Offers (w : World σ) (j : Job) (w₁ : World σ) : Prop where
  waiting : w.waiting = j.awaited?.elim w₁.waiting (· ::ₘ w₁.waiting)
  pausing : w.pausing = j.resumed?.elim w₁.pausing (· ::ₘ w₁.pausing)
  releasing : w.releasing = j.released?.elim w₁.releasing (· ::ₘ w₁.releasing)
  queue : w₁.queue = w.queue
  lock : w₁.lock = w.lock
  tasks : w₁.tasks = w.tasks
  state : w₁.state = w.state

theorem offers {before after : List Job} (h : w.ready = before ++ j :: after) :
    Offers w j { w with ready := before ++ after } := by
  have hcons : (w.ready : Multiset Job) = j ::ₘ ((before ++ after : List Job) : Multiset Job) := by
    rw [h, Multiset.cons_coe, Multiset.coe_eq_coe]
    exact List.perm_middle
  exact ⟨waiting_of_cons rfl hcons, pausing_of_cons rfl hcons, releasing_of_cons hcons, rfl, rfl,
    rfl, rfl⟩

theorem Offers.places_of_awaited (h : Offers w j w₁) (hj : j.awaited? = some (id, m))
    (hj' : j.resumed? = none) : w.places = id ::ₘ w₁.places := by
  rw [places, h.waiting, h.pausing, hj, hj', Option.elim_some, Option.elim_none, Multiset.map_cons,
    Multiset.cons_add]
  rfl

theorem Offers.places_of_resumed (h : Offers w j w₁) (hj : j.awaited? = none)
    (hj' : j.resumed? = some id) : w.places = id ::ₘ w₁.places := by
  rw [places, h.waiting, h.pausing, hj, hj', Option.elim_some, Option.elim_none, Multiset.add_cons]
  rfl

theorem Offers.places_of_none (h : Offers w j w₁) (hj : j.awaited? = none)
    (hj' : j.resumed? = none) : w₁.places = w.places := by
  rw [places, places, h.waiting, h.pausing, hj, hj', Option.elim_none, Option.elim_none]

theorem Offers.onward (h : Offers w j w₁) : w₁.onward = w.onward := by
  funext i
  rw [World.onward, World.onward, h.tasks]

end Ready

/-- Waking leaves everyone waiting who waited. -/
theorem waiting_wake (w : World σ) : w.wake.waiting = w.waiting := by
  have hqueue : (w.queue.map fun p ↦ Job.recheck p.1 p.2).filterMap Job.awaited? = w.queue := by
    simp [List.filterMap_map, Function.comp_def, Job.awaited?]
  rw [waiting, wake, Multiset.filterMap_coe, List.filterMap_append, hqueue, waiting,
    Multiset.filterMap_coe, Multiset.coe_nil, Multiset.zero_add, ← Multiset.coe_add,
    Multiset.add_comm]

theorem pausing_wake (w : World σ) : w.wake.pausing = w.pausing := by
  have hqueue : (w.queue.map fun p ↦ Job.recheck p.1 p.2).filterMap Job.resumed? = [] := by
    simp [List.filterMap_map, Function.comp_def, Job.resumed?]
  rw [pausing, wake, Multiset.filterMap_coe, List.filterMap_append, hqueue, List.append_nil]
  rfl

theorem releasing_wake (w : World σ) : w.wake.releasing = w.releasing := by
  have hqueue : (w.queue.map fun p ↦ Job.recheck p.1 p.2).filterMap Job.released? = [] := by
    simp [List.filterMap_map, Function.comp_def, Job.released?]
  rw [releasing, wake, Multiset.filterMap_coe, List.filterMap_append, hqueue, List.append_nil]
  rfl

theorem alike_wake (w : World σ) : Alike w w.wake :=
  ⟨rfl, rfl, List.nil_subset _, waiting_wake w, releasing_wake w, rfl, rfl⟩

/-- Those who pass a gate were at it before. -/
theorem pausing_openGate (w : World σ) (g : String) : (w.openGate g).pausing = w.pausing := by
  have hpartition : (w.gateQueue.filter (fun p ↦ p.2 = g) ++
      w.gateQueue.filter (fun p ↦ !decide (p.2 = g))).Perm w.gateQueue :=
    List.filter_append_perm _ _
  have hthrough (l : List (TaskId × String)) :
      (l.map fun p ↦ Job.resume p.1 (.ok ())).filterMap Job.resumed? = l.map Prod.fst := by
    simp [List.filterMap_map, Function.comp_def, Job.resumed?]
  have hpausing : (w.openGate g).pausing =
      ((w.gateQueue.filter (fun p ↦ !decide (p.2 = g))).map Prod.fst : List TaskId) +
        ((w.ready.filterMap Job.resumed? : List TaskId) +
          ((w.gateQueue.filter (fun p ↦ p.2 = g)).map Prod.fst : List TaskId) :
          Multiset TaskId) := by
    rw [pausing, openGate, List.partition_eq_filter_filter, Multiset.filterMap_coe,
      List.filterMap_append, hthrough, ← Multiset.coe_add]
    rfl
  have hgates : (((w.gateQueue.filter (fun p ↦ !decide (p.2 = g))).map Prod.fst : List TaskId) +
      ((w.gateQueue.filter (fun p ↦ p.2 = g)).map Prod.fst : List TaskId) : Multiset TaskId) =
        (w.gateQueue.map Prod.fst : List TaskId) := by
    rw [Multiset.add_comm, Multiset.coe_add, ← List.map_append, Multiset.coe_eq_coe]
    exact hpartition.map Prod.fst
  rw [hpausing, Multiset.add_comm (w.ready.filterMap Job.resumed? : Multiset TaskId),
    ← Multiset.add_assoc, hgates]
  rfl

theorem alike_openGate (w : World σ) (g : String) : Alike w (w.openGate g) := by
  have hjobs {α : Type} (f : Job → Option α) (hf : ∀ i r, f (.resume i r) = none)
      (l : List (TaskId × String)) :
      (l.map fun p ↦ Job.resume p.1 (.ok ())).filterMap f = [] := by
    simp [List.filterMap_map, hf]
  refine ⟨rfl, rfl, List.Subset.refl _, ?_, ?_, rfl, rfl⟩
  · rw [openGate, List.partition_eq_filter_filter, waiting, Multiset.filterMap_coe,
      List.filterMap_append, hjobs _ fun _ _ ↦ rfl, List.append_nil]
    rfl
  · rw [openGate, List.partition_eq_filter_filter, releasing, Multiset.filterMap_coe,
      List.filterMap_append, hjobs _ fun _ _ ↦ rfl, List.append_nil]
    rfl

/-! ## Marking tasks -/

theorem getElem?_mark (w : World σ) (id : TaskId) (p : Progress σ) (i : TaskId) :
    (w.mark id p).tasks[i]? = if id = i then (w.tasks[i]?).map fun _ ↦ p else w.tasks[i]? := by
  rw [mark, List.getElem?_set']
  rfl

/-- Another ticket does not change what a task goes on with. -/
theorem onward_mark_paused {ticket ticket' : Option Nat} {next : Outcome Unit → Action σ Unit}
    (h : w.tasks[id]? = some (.paused ticket next)) :
    (w.mark id (.paused ticket' next)).onward = w.onward := by
  funext i
  rw [onward, onward, getElem?_mark]
  split
  · rename_i hi
    subst hi
    rw [h]
    rfl
  · rfl

/-- A task that learns that the lock was left for it is ready. -/
theorem alike_relay (w : World σ) (id : TaskId) (ticket : Nat) (r : Outcome Unit) :
    Alike w (w.perform (.relay id ticket r)) := by
  rw [perform]
  split
  · rename_i t next htask
    split
    · exact ⟨rfl, rfl, List.Subset.refl _, waiting_push _ _, releasing_push _ _,
        onward_mark_paused htask, List.length_set⟩
    · exact .refl w
  · exact .refl w

theorem Placed.change {turn' : Option TaskId} (h : Placed w turn) (hplaces : w'.places = w.places)
    (htasks : ∀ i ∈ w.places, w'.tasks[i]? = w.tasks[i]?)
    (hbusy : ∀ i ∈ turn', i ∉ w.places ∧ ∃ p, w'.tasks[i]? = some p ∧ p.ticket? = none) :
    Placed w' turn' where
  nodup := hplaces ▸ h.nodup
  paused i hi := by
    rw [hplaces] at hi
    rw [htasks i hi]
    exact h.paused i hi
  busy := hplaces ▸ hbusy

/-- A task that waits nowhere may begin to wait in some place. -/
theorem Placed.insert {turn' : Option TaskId} (h : Placed w turn) (hi : i ∉ w.places)
    (hplaces : w'.places = i ::ₘ w.places) (htasks : ∀ i ∈ w.places, w'.tasks[i]? = w.tasks[i]?)
    (hpaused : ∃ next, w'.tasks[i]? = some (.paused none next))
    (hbusy : ∀ k ∈ turn', k ≠ i ∧ k ∉ w.places ∧ ∃ p, w'.tasks[k]? = some p ∧ p.ticket? = none) :
    Placed w' turn' where
  nodup := hplaces ▸ Multiset.nodup_cons.mpr ⟨hi, h.nodup⟩
  paused k hk := by
    rw [hplaces, Multiset.mem_cons] at hk
    rcases hk with rfl | hk
    · exact hpaused
    · rw [htasks k hk]
      exact h.paused k hk
  busy k hk := by
    obtain ⟨hne, hnot, hp⟩ := hbusy k hk
    rw [hplaces, Multiset.mem_cons, not_or]
    exact ⟨⟨hne, hnot⟩, hp⟩

/-! ## Cancelling -/

/-- Where every task stands at most once, only the one that is found is taken out. -/
theorem coe_eq_cons_filter {β : Type} {xs : List (TaskId × β)} {p : TaskId × β}
    (hnodup : (xs.map Prod.fst).Nodup) (h : xs.find? (·.1 = id) = some p) :
    p.1 = id ∧ (xs : Multiset (TaskId × β)) = p ::ₘ (xs.filter (·.1 ≠ id) : List (TaskId × β)) := by
  induction xs with
  | nil => cases h
  | cons x xs ih =>
    rw [List.map_cons, List.nodup_cons] at hnodup
    rw [List.find?_cons] at h
    by_cases hx : x.1 = id
    · simp only [hx, decide_true] at h
      cases h
      subst hx
      have hrest : xs.filter (·.1 ≠ p.1) = xs := by
        rw [List.filter_eq_self]
        intro y hy
        have hne : y.1 ≠ p.1 := fun heq ↦ hnodup.1 (heq ▸ List.mem_map_of_mem hy)
        simpa using hne
      rw [List.filter_cons_of_neg (by simp), hrest]
      exact ⟨rfl, rfl⟩
    · simp only [hx, decide_false] at h
      obtain ⟨hp, hperm⟩ := ih hnodup.2 h
      refine ⟨hp, ?_⟩
      rw [List.filter_cons_of_pos (by simpa using hx), ← Multiset.cons_coe, hperm,
        ← Multiset.cons_coe, Multiset.cons_swap]

/-- A ready job of a cancelled task stays the turn of the task in the same way. -/
theorem filterMap_cancelJob {α : Type} (f : Job → Option α) (hf : ∀ j, f (cancelJob id j) = f j)
    (js : List Job) : (js.map (cancelJob id)).filterMap f = js.filterMap f := by
  rw [List.filterMap_map]
  exact List.filterMap_congr fun j _ ↦ hf j

theorem awaited?_cancelJob (j : Job) : (cancelJob id j).awaited? = j.awaited? := by
  cases j <;> simp only [cancelJob] <;> first | rfl | split <;> rfl

theorem resumed?_cancelJob (j : Job) : (cancelJob id j).resumed? = j.resumed? := by
  cases j <;> simp only [cancelJob] <;> first | rfl | split <;> rfl

theorem released?_cancelJob (j : Job) : (cancelJob id j).released? = j.released? := by
  cases j <;> simp only [cancelJob] <;> first | rfl | split <;> rfl

theorem Placed.nodup_queue (h : Placed w turn) : (w.queue.map Prod.fst).Nodup := by
  have hwaiting := (Multiset.nodup_add.mp h.nodup).1
  rw [waiting, Multiset.map_add] at hwaiting
  exact Multiset.coe_nodup.mp (Multiset.nodup_add.mp hwaiting).1

theorem Placed.nodup_gateQueue (h : Placed w turn) : (w.gateQueue.map Prod.fst).Nodup := by
  have hpausing := (Multiset.nodup_add.mp h.nodup).2.1
  exact Multiset.coe_nodup.mp (Multiset.nodup_add.mp hpausing).1

/-- A task may wait without its ticket, as long as it waited for nothing else. -/
theorem Placed.mark_none (h : Placed w turn) (hturn : id ∉ turn) {ticket : Option Nat}
    {next : Outcome Unit → Action σ Unit} (htask : w.tasks[id]? = some (.paused ticket next)) :
    Placed (w.mark id (.paused none next)) turn ∧ Alike w (w.mark id (.paused none next)) := by
  refine ⟨h.change rfl ?_ ?_, rfl, rfl, List.Subset.refl _, rfl, rfl, onward_mark_paused htask,
    List.length_set⟩
  · intro i hi
    rw [getElem?_mark]
    split
    · rename_i heq
      subst heq
      obtain ⟨next', hnext⟩ := h.paused _ hi
      rw [hnext] at htask
      cases htask
      rw [hnext]
      rfl
    · rfl
  · intro i hi
    have hne : id ≠ i := fun heq ↦ hturn (heq ▸ hi)
    rw [getElem?_mark, if_neg hne]
    exact h.busy i hi

/-- A task that waits for its job to leave the lock may have its turn instead. -/
theorem Placed.resume_ticketed (h : Placed w turn) (hturn : id ∉ turn) {ticket : Nat}
    {next : Outcome Unit → Action σ Unit} (htask : w.tasks[id]? = some (.paused (some ticket) next))
    (r : Outcome Unit) :
    Placed ((w.mark id (.paused none next)).push (.resume id r)) turn ∧
      Alike w ((w.mark id (.paused none next)).push (.resume id r)) := by
  obtain ⟨hmark, halike⟩ := h.mark_none hturn htask
  have hnot : id ∉ w.places := by
    intro hmem
    obtain ⟨next', hnext⟩ := h.paused id hmem
    rw [htask] at hnext
    cases hnext
  have htask' : (w.mark id (.paused none next)).tasks[id]? = some (.paused none next) := by
    rw [getElem?_mark, if_pos rfl, htask]
    rfl
  refine ⟨hmark.insert hnot (places_push_resume _ id r) (fun _ _ ↦ rfl) ⟨next, htask'⟩
    fun k hk ↦ ⟨fun heq ↦ hturn (heq ▸ hk), hmark.busy k hk⟩, ?_⟩
  exact halike.trans ⟨rfl, rfl, List.Subset.refl _, waiting_push _ _, releasing_push _ _, rfl, rfl⟩

/-- A task that is cancelled is moved to where it learns of it. -/
theorem Placed.cancel (h : Placed w turn) (hturn : id ∉ turn) :
    Placed (w.cancel id) turn ∧ Alike w (w.cancel id) := by
  cases htask : w.tasks[id]? with
  | none =>
    rw [World.cancel, htask]
    exact ⟨h, .refl w⟩
  | some p =>
    cases p with
    | finished r =>
      rw [World.cancel, htask]
      exact ⟨h, .refl w⟩
    | paused ticket next =>
      obtain ⟨hmark, halike⟩ := h.mark_none hturn htask
      rw [World.cancel, htask]
      simp only
      generalize hw₁ : w.mark id (.paused none next) = w₁ at hmark halike ⊢
      cases hqueue : w₁.queue.find? (·.1 = id) with
      | some p =>
        -- out of the queue
        obtain ⟨rfl, hperm⟩ := coe_eq_cons_filter hmark.nodup_queue hqueue
        have hwaiting : ({ w₁ with queue := w₁.queue.filter (·.1 ≠ p.1) }.push
            (.abort p.1 p.2)).waiting = w₁.waiting := by
          rw [waiting_push, waiting, waiting, hperm, Multiset.cons_add]
          rfl
        exact ⟨hmark.change (places_eq hwaiting (pausing_push _ _)) (fun _ _ ↦ rfl) hmark.busy,
          halike.trans ⟨rfl, rfl, List.filter_subset_self _, hwaiting, releasing_push _ _, rfl,
            rfl⟩⟩
      | none =>
        cases hgate : w₁.gateQueue.find? (·.1 = id) with
        | some p =>
          -- away from a gate
          obtain ⟨rfl, hperm⟩ := coe_eq_cons_filter hmark.nodup_gateQueue hgate
          have hpausing : ({ w₁ with gateQueue := w₁.gateQueue.filter (·.1 ≠ p.1) }.push
              (.resume p.1 (.error .cancelled))).pausing = w₁.pausing := by
            rw [pausing_push, pausing, pausing, hperm, Multiset.map_cons, Multiset.cons_add]
            rfl
          exact ⟨hmark.change (places_eq (waiting_push _ _) hpausing) (fun _ _ ↦ rfl) hmark.busy,
            halike.trans ⟨rfl, rfl, List.Subset.refl _, waiting_push _ _, releasing_push _ _, rfl,
              rfl⟩⟩
        | none =>
          cases ticket with
          | some ticket =>
            -- the job that leaves the lock goes on without the task
            subst hw₁
            exact h.resume_ticketed hturn htask _
          | none =>
            have hwaiting : { w₁ with ready := w₁.ready.map (cancelJob id) }.waiting =
                w₁.waiting := by
              rw [waiting, waiting, Multiset.filterMap_coe, Multiset.filterMap_coe,
                filterMap_cancelJob _ awaited?_cancelJob]
            have hpausing : { w₁ with ready := w₁.ready.map (cancelJob id) }.pausing =
                w₁.pausing := by
              rw [pausing, pausing, Multiset.filterMap_coe, Multiset.filterMap_coe,
                filterMap_cancelJob _ resumed?_cancelJob]
            have hreleasing : { w₁ with ready := w₁.ready.map (cancelJob id) }.releasing =
                w₁.releasing := by
              rw [releasing, releasing, Multiset.filterMap_coe, Multiset.filterMap_coe,
                filterMap_cancelJob _ released?_cancelJob]
            exact ⟨hmark.change (places_eq hwaiting hpausing) (fun _ _ ↦ rfl) hmark.busy,
              halike.trans ⟨rfl, rfl, List.Subset.refl _, hwaiting, hreleasing, rfl, rfl⟩⟩

/-! ## Starting tasks and leaving the lock -/

theorem onward_spawn (w : World σ) (next : Outcome Unit → Action σ Unit) (i : TaskId) :
    (w.spawn next).onward i = if i = w.tasks.length then some next else w.onward i := by
  have htasks : (w.spawn next).tasks = w.tasks ++ [.paused none next] := rfl
  rw [onward, onward, htasks, List.getElem?_append]
  split
  · rename_i hlt
    rw [if_neg (Nat.ne_of_lt hlt)]
  · rename_i hge
    by_cases hi : i = w.tasks.length
    · rw [if_pos hi, hi, Nat.sub_self]
      rfl
    · have hlt : w.tasks.length < i := Nat.lt_of_le_of_ne (Nat.le_of_not_lt hge) (Ne.symm hi)
      rw [if_neg hi, List.getElem?_eq_none (by simp; omega),
        List.getElem?_eq_none (Nat.le_of_lt hlt)]

theorem getElem?_spawn {next : Outcome Unit → Action σ Unit} {p : Progress σ}
    (h : w.tasks[i]? = some p) : (w.spawn next).tasks[i]? = some p := by
  have htasks : (w.spawn next).tasks = w.tasks ++ [.paused none next] := rfl
  rw [htasks, List.getElem?_append_left (List.getElem?_eq_some_iff.mp h).1, h]

/-- A new task waits for its first turn. -/
theorem Placed.spawn (h : Placed w turn) (next : Outcome Unit → Action σ Unit) :
    Placed (w.spawn next) turn := by
  have hnot {p : Progress σ} : w.tasks[w.tasks.length]? ≠ some p := by simp
  have hnew : w.tasks.length ∉ w.places := fun hmem ↦ hnot (h.paused _ hmem).choose_spec
  refine h.insert hnew (places_push_resume _ _ _) ?_ ⟨next, by simp [World.spawn, push]⟩ ?_
  · intro i hi
    obtain ⟨next', hnext⟩ := h.paused i hi
    rw [hnext, getElem?_spawn hnext]
  · intro k hk
    obtain ⟨hplace, p, hp, hticket⟩ := h.busy k hk
    exact ⟨fun heq ↦ hnot (heq ▸ hp), hplace, p, getElem?_spawn hp, hticket⟩

/-- Whoever leaves the lock wakes all who wait for it, unless readers are left. -/
theorem letGo?_eq_ok (h : w.letGo? m = .ok w') :
    ∃ l, w.lock.leave? m = .ok l ∧ Alike { w with lock := l } w' ∧ w'.pausing = w.pausing ∧
      w'.tasks = w.tasks ∧ (w'.queue = [] ∨ l.isFreedBy m = false) := by
  obtain ⟨l, hl, h⟩ := Outcome.bind_eq_ok.mp h
  cases h
  refine ⟨l, hl, ?_⟩
  cases hfreed : l.isFreedBy m with
  | true => exact ⟨alike_wake _, pausing_wake _, rfl, .inl rfl⟩
  | false => exact ⟨.refl _, rfl, rfl, .inr rfl⟩

/-- The lock is left if somebody holds it. -/
theorem exists_letGo? {l : Lock} (h : w.lock.leave? m = .ok l) : ∃ w', w.letGo? m = .ok w' := by
  rw [letGo?, h]
  exact ⟨_, rfl⟩

end World

end RecordStore
