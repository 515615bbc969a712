import RecordStore.Fault.Basic

/-!
# A lock for readers and writers

Any number of readers hold the lock together; a writer holds it alone.  A writer that waits keeps
new readers out, so a steady stream of readers cannot hold it up for ever.

* `Lock.admits` tells who may enter at once.
* `Lock.leave?` refuses to let go of a lock that nobody holds.
-/

namespace RecordStore

/-- The two ways to hold the lock. -/
inductive Mode where
  | read | write
  deriving DecidableEq, Repr, Inhabited

/-- Who holds the lock, and how many writers wait for it. -/
structure Lock where
  readers : Nat := 0
  writer : Bool := false
  waitingWriters : Nat := 0
  deriving DecidableEq, Repr, Inhabited

namespace Lock

/-- May the lock be entered now? -/
def admits (l : Lock) : Mode → Bool
  | .read => !l.writer && l.waitingWriters == 0
  | .write => !l.writer && l.readers == 0

/-- The lock once it is entered. -/
def enter (l : Lock) : Mode → Lock
  | .read => { l with readers := l.readers + 1 }
  | .write => { l with writer := true }

/-- The lock once someone has begun to wait for it. -/
def await (l : Lock) : Mode → Lock
  | .read => l
  | .write => { l with waitingWriters := l.waitingWriters + 1 }

/-- The lock once someone has ceased to wait for it. -/
def desist (l : Lock) : Mode → Lock
  | .read => l
  | .write => { l with waitingWriters := l.waitingWriters - 1 }

/-- The lock once it is left. -/
def leave? (l : Lock) : Mode → Outcome Lock
  | .read =>
    if l.readers = 0 then throw (.lock .releaseRead)
    else pure { l with readers := l.readers - 1 }
  | .write => if l.writer then pure { l with writer := false } else throw (.lock .releaseWrite)

/-- Do those who wait have reason to look again after the lock was left in this mode? -/
def isFreedBy (l : Lock) : Mode → Bool
  | .read => l.readers == 0
  | .write => true

/-- A truth value in messages. -/
def showBool (b : Bool) : String := if b then "True" else "False"

/-- The text of the lock in messages. -/
def shown (l : Lock) : String :=
  "AsyncReadWriteLock(readers=" ++ toString l.readers ++ ", writer=" ++ showBool l.writer ++
    ", waiting_writers=" ++ toString l.waitingWriters ++ ")"

@[simp] theorem desist_await (l : Lock) (m : Mode) : (l.await m).desist m = l := by
  cases m <;> simp [await, desist]

theorem leave?_enter (l : Lock) (m : Mode) (h : l.admits m = true) :
    (l.enter m).leave? m = .ok l := by
  cases m
  · simp [enter, leave?, pure, Except.pure]
  · cases l
    simp_all [admits, enter, leave?, pure, Except.pure]

end Lock

end RecordStore
