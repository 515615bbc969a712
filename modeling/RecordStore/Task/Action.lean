import RecordStore.Task.Lock

/-!
# Actions of tasks

An `Action` is what a task does on a state that it shares with other tasks.  It reads and writes
the state, learns which task it runs in, looks at the lock and at the ends of tasks, starts other
tasks, and may ask the scheduler for something: to enter or leave the lock, to pass or open a gate,
to cancel a task, or to give way.  Only there can other tasks come in between.  An action ends with
a result or a fault, or it ends its whole task.
-/

namespace RecordStore

/-- What tasks are told apart by. -/
abbrev TaskId := Nat

/-- What an action asks the scheduler for. -/
inductive Request where
  | enter (m : Mode)
  /-- To leave the lock by a job of its own. -/
  | leave (m : Mode)
  /-- To leave the lock on the spot. -/
  | letGo (m : Mode)
  /-- To wait until the gate of this name is open. -/
  | gate (name : String)
  | openGate (name : String)
  | cancel (id : TaskId)
  /-- To let everything go first that is ready. -/
  | yield
  deriving DecidableEq, Repr, Inhabited

/-- The two sides of an action that starts a task: its own, which learns the number of the task,
and that of the task, which learns whether it may begin. -/
inductive Side where
  | own (child : TaskId)
  | child (r : Outcome Unit)
  deriving Inhabited

/-- What a task does on a shared state. -/
inductive Action (σ : Type) (α : Type) where
  | done (r : Outcome α)
  /-- Ends the task, whatever was to follow. -/
  | exit (r : Outcome Unit)
  | look (next : σ → Action σ α)
  | put (s : σ) (next : Action σ α)
  | self (next : TaskId → Action σ α)
  | lock (next : Lock → Action σ α)
  /-- Looks at the end of every task, which is nothing while the task is under way. -/
  | ends (next : List (Option (Outcome Unit)) → Action σ α)
  /-- Starts a task, and goes on both in it and here. -/
  | fork (next : Side → Action σ α)
  | ask (q : Request) (next : Outcome Unit → Action σ α)

namespace Action

variable {σ α β : Type}

/-- An action that does nothing but end. -/
protected def pure (a : α) : Action σ α := done (.ok a)

/-- An action that fails. -/
def fail (f : Fault) : Action σ α := done (.error f)

/-- An action and, whatever its end is, what follows from it. -/
def andThen : Action σ α → (Outcome α → Action σ β) → Action σ β
  | done r, k => k r
  | exit r, _ => exit r
  | look next, k => look fun s => (next s).andThen k
  | put s next, k => put s (next.andThen k)
  | self next, k => self fun i => (next i).andThen k
  | lock next, k => lock fun l => (next l).andThen k
  | ends next, k => ends fun es => (next es).andThen k
  | fork next, k => fork fun side => (next side).andThen k
  | ask q next, k => ask q fun r => (next r).andThen k

/-- Goes on with the result of an action that has succeeded. -/
protected def bind (x : Action σ α) (f : α → Action σ β) : Action σ β :=
  x.andThen fun
    | .ok a => f a
    | .error e => fail e

/-- Goes on with the fault of an action that has failed. -/
def handle (x : Action σ α) (h : Fault → Action σ α) : Action σ α :=
  x.andThen fun
    | .ok a => Action.pure a
    | .error e => h e

instance : Monad (Action σ) where
  pure := Action.pure
  bind := Action.bind

instance : MonadExceptOf Fault (Action σ) where
  throw := fail
  tryCatch := handle

instance : MonadStateOf σ (Action σ) where
  get := look Action.pure
  set s := put s (Action.pure ())
  modifyGet f := look fun s => put (f s).2 (Action.pure (f s).1)

instance : MonadLift Outcome (Action σ) where
  monadLift := done

instance : Inhabited (Action σ α) where
  default := fail default

/-- The task that the action runs in. -/
def whoami : Action σ TaskId := self Action.pure

/-- The lock as it stands. -/
def lockState : Action σ Lock := lock Action.pure

/-- The end of every task. -/
def endings : Action σ (List (Option (Outcome Unit))) := ends Action.pure

/-- Asks the scheduler. -/
def request (q : Request) : Action σ Unit := ask q done

/-- Gives way a number of times. -/
def giveWay : Nat → Action σ Unit
  | 0 => Action.pure ()
  | n + 1 => (request .yield).bind fun _ => giveWay n

/-- An action that is left out where a fault has come before it. -/
def afterwards (x : Action σ Unit) : Outcome Unit → Action σ Unit
  | .ok _ => x
  | .error f => fail f

/-- Starts a task and gives its number; the task does nothing if it is cancelled before it
runs. -/
def start (x : Action σ Unit) : Action σ TaskId :=
  fork fun
    | .own id => Action.pure id
    | .child r => (x.afterwards r).andThen exit

/-- The result or fault of an action, as a result. -/
def attempt (x : Action σ α) : Action σ (Outcome α) := x.andThen Action.pure

/-- Does something last, whether the action has succeeded or not; a fault of what is done last
comes before that of the action. -/
def ensuring (x : Action σ α) (last : Action σ Unit) : Action σ α :=
  x.andThen fun r => last.bind fun _ => done r

/-- Holds the lock during an action. -/
def holding (m : Mode) (x : Action σ α) : Action σ α :=
  (request (.enter m)).bind fun _ => x.ensuring (request (.leave m))

@[simp] theorem andThen_done (r : Outcome α) (k : Outcome α → Action σ β) :
    (done r).andThen k = k r := rfl

@[simp] theorem andThen_exit (r : Outcome Unit) (k : Outcome α → Action σ β) :
    (exit r).andThen k = exit r := rfl

theorem andThen_assoc {γ : Type} (x : Action σ α) (f : Outcome α → Action σ β)
    (g : Outcome β → Action σ γ) :
    (x.andThen f).andThen g = x.andThen fun r => (f r).andThen g := by
  induction x with
  | done r => rfl
  | exit r => rfl
  | look next ih => simp only [andThen]; congr 1; funext s; exact ih s
  | put s next ih => simp only [andThen, ih]
  | self next ih => simp only [andThen]; congr 1; funext i; exact ih i
  | lock next ih => simp only [andThen]; congr 1; funext l; exact ih l
  | ends next ih => simp only [andThen]; congr 1; funext es; exact ih es
  | fork next ih => simp only [andThen]; congr 1; funext side; exact ih side
  | ask q next ih => simp only [andThen]; congr 1; funext r; exact ih r

@[simp] theorem andThen_end (x : Action σ α) : x.andThen done = x := by
  induction x with
  | done r => rfl
  | exit r => rfl
  | look next ih => simp only [andThen]; congr 1; funext s; exact ih s
  | put s next ih => simp only [andThen, ih]
  | self next ih => simp only [andThen]; congr 1; funext i; exact ih i
  | lock next ih => simp only [andThen]; congr 1; funext l; exact ih l
  | ends next ih => simp only [andThen]; congr 1; funext es; exact ih es
  | fork next ih => simp only [andThen]; congr 1; funext side; exact ih side
  | ask q next ih => simp only [andThen]; congr 1; funext r; exact ih r

end Action

end RecordStore
