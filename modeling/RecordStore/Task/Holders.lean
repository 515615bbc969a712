import RecordStore.Assoc
import RecordStore.Task.World

/-!
# Tasks that hold the lock

Tasks that do nothing but enter the lock and hold it until they are told to leave.  A `LockRun`
is a world of such tasks; `LockRun.step` starts them, tells them to leave, cancels them, or enters
and leaves the lock by hand, and lets everything run until nothing can move.
-/

namespace RecordStore

/-- The faults with which tasks are to leave the lock. -/
abbrev Farewells := Assoc Fault

/-- Something that is done to the tasks or the lock. -/
inductive LockStep where
  | start (m : Mode) (names : List String)
  | release (name : String)
  | fail (name : String) (f : Fault)
  | cancel (name : String)
  | enter (m : Mode)
  | leave (m : Mode)
  deriving Inhabited

/-- A world of tasks that hold the lock, with their names in the order in which they started. -/
structure LockRun where
  world : World Farewells := .ofState []
  names : Assoc TaskId := []

/-- Holds the lock until the gate of the task's name is open. -/
def Action.holdUntilTold (m : Mode) (name : String) : Action Farewells Unit :=
  holding m do
    request (.gate name)
    match (← get).lookup name with
    | some f => throw f
    | none => pure ()

namespace LockRun

/-- What there is to say of a task. -/
inductive Status where
  | waiting | holding | ended (r : Outcome Unit)
  deriving Inhabited

/-- Starts one task. -/
def start (r : LockRun) (m : Mode) (name : String) : LockRun where
  world := r.world.spawn (Action.holdUntilTold m name).afterwards
  names := r.names.insert name r.world.tasks.length

/-- Lets the first task of all, which has nothing else to do, make a request by hand. -/
def byHand? (r : LockRun) (q : Request) : Outcome LockRun := do
  let w := r.world.advance 0 (.request q)
  (w.tasks[0]?.bind Progress.ending).getD (.ok ())
  return { r with world := w }

/-- Does something, before anything has run. -/
def change? (r : LockRun) : LockStep → Outcome LockRun
  | .start m names => pure (names.foldl (start · m) r)
  | .release n => pure { r with world := r.world.openGate n }
  | .fail n f =>
    let w := { r.world with state := r.world.state.insert n f }
    pure { r with world := w.openGate n }
  | .cancel n => pure { r with world := ((r.names.lookup n).map r.world.cancel).getD r.world }
  | .enter m => r.byHand? (.enter m)
  | .leave m => r.byHand? (.letGo m)

/-- Does something and lets everything run. -/
def step (fuel : Nat) (r : LockRun) (s : LockStep) : LockRun × Outcome Unit :=
  let done := r.change? s
  let r := done.toOption.getD r
  ({ r with world := r.world.settle fuel }, done.map fun _ => ())

/-- What there is to say of the task. -/
def status (r : LockRun) (id : TaskId) : Status :=
  match r.world.tasks[id]? with
  | some (.finished e) => .ended e
  | _ => if r.world.gateQueue.any (·.1 = id) then .holding else .waiting

/-- What there is to say of every task. -/
def statuses (r : LockRun) : Assoc Status := r.names.mapValues r.status

/-- Steps and the tasks that they start, counted together. -/
def weight : List LockStep → Nat
  | [] => 0
  | .start _ names :: rest => names.length + 1 + weight rest
  | _ :: rest => 1 + weight rest

/-- The states that a list of steps passes through, each with the fault of its step. -/
def runFrom (fuel : Nat) (r : LockRun) : List LockStep → List (LockRun × Outcome Unit)
  | [] => []
  | s :: rest =>
    let next := r.step fuel s
    next :: runFrom fuel next.1 rest

/-- Makes a list of steps. -/
def run (steps : List LockStep) : List (LockRun × Outcome Unit) :=
  let bound := 10 * (weight steps + 10)
  runFrom (bound * bound) {} steps

end LockRun

end RecordStore
