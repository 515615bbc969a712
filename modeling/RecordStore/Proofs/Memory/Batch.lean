import RecordStore.Proofs.Memory.Hooks

/-!
# Batches of statements

Statements that are handed over together are made all or none.  If one of them cannot be made the
store is what it was, declarations and row numbers included; otherwise it is what the statements
make of it one after another, each on what the one before it has left.  This holds of the shared
handle, which takes the lock for it, and of a handle inside a transaction, whose earlier writes
stay.

* `Memory.execute_whole` is `Store.settled_batch` for calls through handles, whatever interrupts
  them.
-/

namespace RecordStore

variable {ε : Type}

namespace Memory

open World

variable {ws : List WriteStatement} {w₀ w : World (Memory × ε)} {id : TaskId} {n : Nat}
  {k : Outcome Unit → Action (Memory × ε) Unit}

/-- What follows a batch follows the call that makes it. -/
theorem execute_andThen (ws : List WriteStatement) (h : MemoryHandle)
    (k : Outcome Unit → Action (Memory × ε) Unit) :
    (execute h ws).andThen k =
      ((Verb.execute ws).call h).andThen fun reply ↦ k (reply.map fun _ ↦ ()) := by
  rw [← Client.execute_act, Client.act, Action.andThen_assoc]
  rfl

/-- Inside a transaction a batch is made, or not made, at once. -/
theorem execute_inScope (hn : w₀.memory.isActive (.inScope n) = true) :
    ∃ r s, w₀.memory.store.Settled ws r s ∧
      w₀.advance id ((execute (.inScope n) ws).andThen k) =
        (w₀.withStore s).advance id (k r) := by
  rw [execute_andThen, advance_call_inScope, hn, if_pos rfl]
  split
  · rename_i reply hearly
    exact ⟨_, _, Store.settled_of_early hearly, rfl⟩
  · exact ⟨_, _, w₀.memory.store.settled_run_execute ws, rfl⟩

/-- The batch of a task that has the lock: once it is made, or not made, the task waits until the
lock is left.  Then it goes on with what the batch has come to, or with what it is told instead. -/
theorem exists_left (halone : w.Alone id) :
    let v := w.advance id (((Verb.execute ws).body.held .write (.ok ())).andThen fun reply ↦
      k (reply.map fun _ ↦ ()))
    ∃ r after, w.memory.store.Settled ws r v.memory.store ∧
      v.onward id = some (fun told ↦ k (told.bind fun _ ↦ r)) ∧
      Relinquished id (k r) v after ∧ after.memory = v.memory := by
  intro v
  have hv : v = _ := advance_held .write _
  have hgoOn : (fun told : Outcome Unit ↦
      k ((told.bind fun _ ↦ ((Verb.execute ws).run w.memory.store).2).map fun _ ↦ ())) =
        fun told ↦ k (told.bind fun _ ↦
          ((Verb.execute ws).run w.memory.store).2.map fun _ ↦ ()) := by
    funext told
    cases told <;> rfl
  rw [hgoOn] at hv
  have halone' : (w.withStore ((Verb.execute ws).run w.memory.store).1).Alone id :=
    ⟨halone.1, halone.2, halone.3⟩
  obtain ⟨after, hleft, hafter⟩ := halone'.relinquished fun told ↦
    k (told.bind fun _ ↦ ((Verb.execute ws).run w.memory.store).2.map fun _ ↦ ())
  rw [hv]
  refine ⟨_, after, w.memory.store.settled_run_execute ws, ?_, hleft, hafter⟩
  exact onward_mark (w := World.leaving _ id .write) halone'.placed (some w.tickets) _

/-- A batch through a handle is made as a whole or not at all.

Inside a transaction this is so at once, and the task goes on with what has become of the batch.

Through the shared handle the batch may have its answer without a look at the documents, which are
left alone.  Or its task asks for the lock.  If it is told a fault in place of the lock, it goes on
with that, and nothing was done.  If it is given the lock, it makes the batch, or does not make it,
in one turn, and leaves the lock.  What it is told meanwhile decides only how it goes on: the
documents have been settled before. -/
theorem execute_whole (ws : List WriteStatement) (w₀ : World (Memory × ε)) (id : TaskId)
    (k : Outcome Unit → Action (Memory × ε) Unit) :
    (∀ n, w₀.memory.isActive (.inScope n) = true →
      ∃ r s, w₀.memory.store.Settled ws r s ∧
        w₀.advance id ((execute (.inScope n) ws).andThen k) =
          (w₀.withStore s).advance id (k r)) ∧
    ((∃ r, (r = .ok () → w₀.memory.store.Applies ws w₀.memory.store) ∧
        w₀.advance id ((execute .shared ws).andThen k) = w₀.advance id (k r)) ∨
      ∃ next, w₀.advance id ((execute .shared ws).andThen k) =
          w₀.advance id (.ask (.enter .write) next) ∧
        (∀ (w : World (Memory × ε)) (f : Fault),
          w.advance id (next (.error f)) = w.advance id (k (.error f))) ∧
        ∀ w v, Granted id ((execute .shared ws).andThen k) w₀ w v →
          ∃ r after, w.memory.store.Settled ws r v.memory.store ∧
            v.onward id = some (fun told ↦ k (told.bind fun _ ↦ r)) ∧
            Relinquished id (k r) v after ∧ after.memory = v.memory) := by
  refine ⟨fun n hn ↦ execute_inScope hn, ?_⟩
  have hasks : w₀.advance id ((execute .shared ws).andThen k) = _ :=
    (congrArg (w₀.advance id) (execute_andThen ws .shared k)).trans (advance_call_shared _)
  cases hearly : (Verb.execute ws).early? false with
  | some reply =>
    rw [hearly] at hasks
    refine .inl ⟨_, ?_, hasks⟩
    intro hr
    obtain ⟨-, happlies⟩ | ⟨⟨f, hf⟩, -, -⟩ := Store.settled_of_early (s := w₀.memory.store) hearly
    · exact happlies
    · rw [hr] at hf
      cases hf
  | none =>
    rw [hearly] at hasks
    cases howner : w₀.memory.ownsLock id with
    | true =>
      rw [howner] at hasks
      exact .inl ⟨.error (.usage .sharedHandle), nofun, hasks⟩
    | false =>
      rw [howner] at hasks
      refine .inr ⟨_, hasks, fun w f ↦ rfl, ?_⟩
      intro w v hgranted
      obtain ⟨u, hmemory, halone, rfl⟩ := hgranted.exists_alone hasks
      rw [← hmemory]
      exact exists_left halone

/-- A user as the values of a statement. -/
def userRow (i : Int) : Row := [("id", .integer i)]

/-- In a transaction, the only user makes room for another one.  Through the shared handle, the
second of two users cannot be added again, so the first is not added either. -/
theorem execute_whole_users :
    let begun := Client.oneUser.withMemory (Client.oneUser.memory.opened 0)
    let swap : List WriteStatement :=
      [.delete "users" (.compare (.name "id") .eq (.one ⟨.integer, .integer 7⟩)),
        .insert "users" (userRow 9)]
    let again : List WriteStatement := [.insert "users" (userRow 8), .insert "users" (userRow 7)]
    (begun.advance 0 ((execute (.inScope 0) swap).andThen .done)).memory.store.tables =
        [("users", [⟨2, Client.user 9, []⟩])] ∧
      ∃ v after f, Granted 0 ((execute .shared again).andThen .done) Client.oneUser
          Client.oneUser v ∧
        Relinquished 0 (.done (.error f)) v after ∧
        after.memory.store = Client.oneUser.memory.store := by
  intro begun swap again
  constructor
  · obtain ⟨r, s, hsettled, hadvance⟩ := (execute_whole swap begun 0 .done).1 0 rfl
    rw [hadvance]
    obtain ⟨rfl, s₁, hdelete, s₂, hinsert, rfl⟩ | ⟨-, -, hnone⟩ := hsettled
    · cases hdelete
      cases hinsert
      rfl
    · exact absurd ⟨_, rfl, _, rfl, rfl⟩ (hnone _)
  · have hgranted : Granted 0 ((execute .shared again).andThen .done) Client.oneUser
        Client.oneUser _ := .atOnce rfl Nat.zero_lt_one
    obtain ⟨r, -, hearly⟩ | ⟨next, -, -, hgiven⟩ := (execute_whole again Client.oneUser 0 .done).2
    · cases congrArg World.tickets hearly
    · obtain ⟨r, after, hsettled, -, hleft, hafter⟩ := hgiven _ _ hgranted
      obtain ⟨-, s₁, hfirst, s₂, hsecond, -⟩ | ⟨⟨f, rfl⟩, hstore, -⟩ := hsettled
      · cases hfirst
        cases hsecond
      · exact ⟨_, after, f, hgranted, hleft, (congrArg Memory.store hafter).trans hstore⟩

end Memory

end RecordStore
