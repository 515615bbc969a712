import RecordStore.Task.Action

/-!
# Tasks that share a state

A `World` is a shared state with the tasks that work on it and the scheduler that runs them.  One
task runs at a time, until it ends or has to wait; jobs are taken up in the order in which they
became ready.

* Requests for the lock that cannot be met at once form one queue in order of arrival.  It is
  looked through again when the last reader leaves, when a writer leaves and when a waiting
  writer is cancelled.
* A task that gives way or that has just been started goes to the end of the ready jobs.
* The lock is left by a job of its own, which goes on even when the task that asked for it is
  cancelled meanwhile.
* `World.step` takes up one job, `World.settle` goes on until nothing can move.
-/

namespace RecordStore

/-- How far a task has come.  While it waits for the lock to be left, it knows the number of the
job that leaves it. -/
inductive Progress (σ : Type) where
  | paused (ticket : Option Nat) (next : Outcome Unit → Action σ Unit)
  | finished (r : Outcome Unit)

instance {σ : Type} : Inhabited (Progress σ) := ⟨.finished (.ok ())⟩

/-- The end of what has ended. -/
def Progress.ending {σ : Type} : Progress σ → Option (Outcome Unit)
  | .paused _ _ => none
  | .finished r => some r

/-- What is ready to be done. -/
inductive Job where
  /-- Goes on with a task. -/
  | resume (id : TaskId) (r : Outcome Unit)
  /-- Lets a task that waits for the lock look again. -/
  | recheck (id : TaskId) (m : Mode)
  /-- Ends the wait of a cancelled task for the lock. -/
  | abort (id : TaskId) (m : Mode)
  /-- Leaves the lock for a task. -/
  | release (id : TaskId) (m : Mode) (ticket : Nat)
  /-- Tells a task that the lock was left for it. -/
  | relay (id : TaskId) (ticket : Nat) (r : Outcome Unit)
  deriving Inhabited

/-- A shared state, its tasks and their scheduler. -/
structure World (σ : Type) where
  state : σ
  lock : Lock := {}
  queue : List (TaskId × Mode) := []
  gates : List String := []
  gateQueue : List (TaskId × String) := []
  tasks : List (Progress σ) := []
  ready : List Job := []
  tickets : Nat := 0

namespace World

variable {σ : Type}

/-- Makes a job ready. -/
def push (w : World σ) (j : Job) : World σ := { w with ready := w.ready ++ [j] }

/-- Sets how far a task has come. -/
def mark (w : World σ) (id : TaskId) (p : Progress σ) : World σ :=
  { w with tasks := w.tasks.set id p }

/-- Lets everyone in the queue for the lock look again. -/
def wake (w : World σ) : World σ :=
  { w with queue := [], ready := w.ready ++ w.queue.map fun p => .recheck p.1 p.2 }

/-- Leaves the lock, and lets those who wait for it look again where they have reason to. -/
def letGo? (w : World σ) (m : Mode) : Outcome (World σ) := do
  let l ← w.lock.leave? m
  let w := { w with lock := l }
  return if l.isFreedBy m then w.wake else w

/-- Starts a task, which is told first whether it may begin. -/
def spawn (w : World σ) (next : Outcome Unit → Action σ Unit) : World σ :=
  { w with tasks := w.tasks ++ [Progress.paused none next] }.push
    (.resume w.tasks.length (.ok ()))

/-- Opens a gate. -/
def openGate (w : World σ) (g : String) : World σ :=
  let (through, waiting) := w.gateQueue.partition fun p => p.2 = g
  { w with
    gates := w.gates ++ [g]
    gateQueue := waiting
    ready := w.ready ++ through.map fun p => .resume p.1 (.ok ()) }

/-- A ready job of a task that is cancelled. -/
def cancelJob (id : TaskId) : Job → Job
  | .resume i r => if i = id then .resume i (.error .cancelled) else .resume i r
  | .recheck i m => if i = id then .abort i m else .recheck i m
  | j => j

/-- Cancels a task, wherever it is. -/
def cancel (w : World σ) (id : TaskId) : World σ :=
  match w.tasks[id]? with
  | some (.paused ticket next) =>
    let w := w.mark id (.paused none next)
    match w.queue.find? (·.1 = id), w.gateQueue.find? (·.1 = id), ticket with
    | some (_, m), _, _ =>
      { w with queue := w.queue.filter (·.1 ≠ id) }.push (.abort id m)
    | none, some _, _ =>
      { w with gateQueue := w.gateQueue.filter (·.1 ≠ id) }.push (.resume id (.error .cancelled))
    | none, none, some _ => w.push (.resume id (.error .cancelled))
    | none, none, none => { w with ready := w.ready.map (cancelJob id) }
  | _ => w

/-- The world after a request that is answered at once, with the answer; otherwise the world in
which the task waits, with the number of the job that it waits for if there is one.  A task that
cancels itself learns of it when its turn comes again. -/
def serve (w : World σ) (id : TaskId) :
    Request → Sum (World σ × Outcome Unit) (World σ × Option Nat)
  | .enter m =>
    if w.lock.admits m then .inl ({ w with lock := w.lock.enter m }, .ok ())
    else .inr ({ w with lock := w.lock.await m, queue := w.queue ++ [(id, m)] }, none)
  | .leave m =>
    .inr ({ w.push (.release id m w.tickets) with tickets := w.tickets + 1 }, some w.tickets)
  | .letGo m => .inl (match w.letGo? m with
    | .ok w' => (w', .ok ())
    | .error f => (w, .error f))
  | .gate g =>
    if w.gates.contains g then .inl (w, .ok ())
    else .inr ({ w with gateQueue := w.gateQueue ++ [(id, g)] }, none)
  | .openGate g => .inl (w.openGate g, .ok ())
  | .cancel i =>
    if i = id then .inr (w.push (.resume id (.error .cancelled)), none)
    else .inl (w.cancel i, .ok ())
  | .yield => .inr (w.push (.resume id (.ok ())), none)

/-- Runs a task until it ends or has to wait. -/
def advance (w : World σ) (id : TaskId) : Action σ Unit → World σ
  | .done r => w.mark id (.finished r)
  | .exit r => w.mark id (.finished r)
  | .look next => w.advance id (next w.state)
  | .put s next => advance { w with state := s } id next
  | .self next => w.advance id (next id)
  | .lock next => w.advance id (next w.lock)
  | .ends next => w.advance id (next (w.tasks.map Progress.ending))
  | .fork next =>
    (w.spawn fun r => next (.child r)).advance id (next (.own w.tasks.length))
  | .ask q next => match w.serve id q with
    | .inl (w', r) => w'.advance id (next r)
    | .inr (w', ticket) => w'.mark id (.paused ticket next)

/-- Goes on with a task that was paused. -/
def continueWith (w : World σ) (id : TaskId) (r : Outcome Unit) : World σ :=
  match w.tasks[id]? with
  | some (.paused _ next) => w.advance id (next r)
  | _ => w

/-- Does a job. -/
def perform (w : World σ) : Job → World σ
  | .resume id r => w.continueWith id r
  | .recheck id m =>
    if w.lock.admits m then
      { w with lock := (w.lock.desist m).enter m }.continueWith id (.ok ())
    else { w with queue := w.queue ++ [(id, m)] }
  | .abort id m =>
    let w := { w with lock := w.lock.desist m }
    (if m = .write then w.wake else w).continueWith id (.error .cancelled)
  | .release id m ticket => match w.letGo? m with
    | .ok w' => w'.push (.relay id ticket (.ok ()))
    | .error f => w.push (.relay id ticket (.error f))
  | .relay id ticket r => match w.tasks[id]? with
    | some (.paused t next) =>
      if t = some ticket then (w.mark id (.paused none next)).push (.resume id r) else w
    | _ => w

/-- Takes up the job that has been ready for the longest time. -/
def step (w : World σ) : Option (World σ) :=
  match w.ready with
  | [] => none
  | j :: rest => some ({ w with ready := rest }.perform j)

/-- Takes up jobs until nothing can move. -/
def settle (fuel : Nat) (w : World σ) : World σ :=
  match fuel with
  | 0 => w
  | n + 1 => match w.step with
    | none => w
    | some w' => w'.settle n

/-- Has the task ended? -/
def hasFinished (w : World σ) (id : TaskId) : Bool :=
  (w.tasks[id]?.bind Progress.ending).isSome

/-- Takes up jobs until the task has ended. -/
def settleTask (fuel : Nat) (id : TaskId) (w : World σ) : World σ :=
  match fuel with
  | 0 => w
  | n + 1 =>
    if w.hasFinished id then w
    else match w.step with
      | none => w
      | some w' => w'.settleTask n id

/-- Gives a task something new to do and goes on until it has done it. -/
def runTask (fuel : Nat) (id : TaskId) (x : Action σ Unit) (w : World σ) : World σ :=
  (w.advance id x).settleTask fuel id

/-- A world in which one task has nothing to do yet. -/
def ofState (s : σ) : World σ := { state := s, tasks := [.finished (.ok ())] }

end World

end RecordStore
