import RecordStore.Proofs.Memory.Atomicity

/-!
# Tasks that are interrupted

A task may be told of its cancellation wherever it waits: for the lock before its transaction
begins, inside its work, and while the lock is left at the end.  Only there does it matter whether
the work has succeeded: what the task is told decides what the transaction comes to, and no longer
what becomes of the documents.

* `Client.comesTo` is what a transaction comes to, whatever its task is told at its end.
* `Client.raised_undone_iff` tells when a transaction that comes to a fault has left the documents
  as they were.
-/

namespace RecordStore

variable {ε ρ : Type}

namespace Client

open World

variable {k : Outcome ρ → Action (Memory × ε) Unit} {w w₀ w' : World (Memory × ε)} {m : Memory}
  {id : TaskId} {n : Nat} {c work : Client ε ρ}

/-- What follows once a transaction has ended with this, and its task was told something while the
lock was being left. -/
def comesTo (n : Nat) (k : Outcome ρ → Action (Memory × ε) Unit) :
    Client ε ρ → Outcome Unit → Action (Memory × ε) Unit
  | done r, told => k (told.bind fun _ ↦ r)
  | commit next, told | rollback next, told => (next told).remaining .transaction n k
  | c, _ => c.remaining .transaction n k

theorem closes_of_lasts_transaction (hn : w.memory.isActive (.inScope n) = true)
    (halone : w.Alone id) (h : Lasts id n (w.advance id (c.remaining .transaction n k)) w') :
    (w'.memory.isActive (.inScope n) = true ∧ ∃ next, w'.onward id = some next) ∨
      Closes (fun c' next ↦ next = c'.comesTo n k) id n c w.memory w' := by
  refine closes_of_lasts (fun w r hn ↦ ⟨_, rfl, ?_⟩) (fun _ ↦ rfl) (fun _ ↦ rfl) hn halone h
  rw [Scoping.conclude, advance_conclude, hn]
  cases r <;> rfl

/-- A task that waits for the lock and learns there that it will not get it has changed nothing, and
that is what its transaction comes to. -/
theorem exists_awaiting_transaction (howner : w₀.memory.ownsLock id = false)
    (hlock : w₀.lock.admits .write = false) (hid : id < w₀.tasks.length)
    (f : MemoryHandle → Action (Memory × ε) ρ) :
    ∃ next, (w₀.advance id ((Memory.transaction .shared f).andThen k)).onward id = some next ∧
      (w₀.advance id ((Memory.transaction .shared f).andThen k)).memory = w₀.memory ∧
      ∀ fault, next (.error fault) = k (.error fault) := by
  have hserve := w₀.serve_enter id .write
  rw [hlock, if_neg Bool.false_ne_true] at hserve
  rw [advance_transaction_shared, howner, if_neg Bool.false_ne_true, advance_ask_of_inr hserve]
  exact ⟨_, onward_mark (w := w₀.awaiting id .write) hid none _, rfl, fun fault ↦ rfl⟩

/-- A transaction may come to a fault for three reasons.  A task that is interrupted while it waits
for the lock has changed nothing.  Where the work has failed, the documents are those at the
beginning.  Where it has succeeded, its task may still be interrupted while it leaves the lock: then
the transaction comes to that fault, but everything that was done is kept.  So the documents are as
they were whenever a transaction comes to a fault, if and only if that has not happened or there
was nothing to keep. -/
theorem raised_undone_iff (howner : w₀.memory.ownsLock id = false) :
    (w₀.lock.admits .write = false → id < w₀.tasks.length →
      ∃ next, (w₀.advance id ((Memory.transaction .shared work.act).andThen k)).onward id =
          some next ∧
        (w₀.advance id ((Memory.transaction .shared work.act).andThen k)).memory = w₀.memory ∧
        ∀ fault, next (.error fault) = k (.error fault)) ∧
    ∀ w v w', Granted id ((Memory.transaction .shared work.act).andThen k) w₀ w v →
      Lasts id w.memory.scopes.length v w' →
      (w'.memory.isActive (.inScope w.memory.scopes.length) = true ∧
        ∃ next, w'.onward id = some next) ∨
      ∃ c' s kept after, work.Leads w.memory.store c' s ∧ c'.keeps? = some kept ∧
        w'.onward id = some (c'.comesTo w.memory.scopes.length k) ∧
        Concluded id w.memory.scopes.length (c'.comesTo w.memory.scopes.length k (.ok ())) w'
          after ∧
        after.memory.store = (if kept then s else s.restore w.memory.store.checkpoint) ∧
        ∀ r, c' = .done r → ∀ told : Outcome Unit,
          c'.comesTo w.memory.scopes.length k told = k (told.bind fun _ ↦ r) ∧
          ((∀ fault, (told.bind fun _ ↦ r) = .error fault →
              after.memory.store.tables = w.memory.store.tables) ↔
            (told.isOk = false → r.isOk = true → s.tables = w.memory.store.tables)) := by
  refine ⟨fun hlock hid ↦ exists_awaiting_transaction howner hlock hid work.act, ?_⟩
  intro w v w' hgranted h
  have hready : Scoping.transaction.Ready w₀.memory := trivial
  obtain ⟨next, hrun, hnext⟩ := exists_advance_run howner hready work.act k
  obtain ⟨u, hmemory, halone, rfl⟩ := hgranted.exists_alone hrun
  rw [hnext, hmemory] at h
  have halone' : (u.withMemory (w.memory.opened id)).Alone id := ⟨halone.1, halone.2, halone.3⟩
  refine (closes_of_lasts_transaction (w := u.withMemory (w.memory.opened id))
    (Memory.isActive_opened.mpr (.inl rfl)) halone' h).imp_right fun hcloses ↦ ?_
  obtain ⟨c', s, kept, _, after, hleads, hkept, rfl, honward, hconcluded, hstore⟩ :=
    Closes.concluded hcloses
  refine ⟨c', s, kept, after, hleads, hkept, honward, hconcluded, hstore, ?_⟩
  rintro r rfl told
  refine ⟨rfl, ?_⟩
  cases hkept
  rw [hstore]
  cases r with
  | error f => exact iff_of_true (fun _ _ ↦ rfl) (fun _ h ↦ by cases h)
  | ok a =>
    -- the work has succeeded, so only what the task is told can be a fault
    cases told with
    | ok _ => exact iff_of_true (fun _ h ↦ by cases h) (fun h ↦ by cases h)
    | error f =>
      constructor
      · exact fun h _ _ ↦ h f rfl
      · exact fun h _ _ ↦ h rfl rfl

/-- Adds another user. -/
def addAnother : Client Unit Unit :=
  .call (.insert users (user 8)) fun r ↦ .done (r.map fun _ ↦ ())

/-- Where the task that has added a user is not interrupted, its transaction comes to no fault. -/
theorem raised_undone_iff_addAnother :
    let v := oneUser.advance 0 ((Memory.transaction .shared addAnother.act).andThen .done)
    ∃ after, Concluded 0 0 (.done (.ok ())) v after ∧
      v.onward 0 = some (comesTo (ρ := Unit) 0 .done (.done (.ok ()))) ∧
      after.memory.store.tables = [("users", [⟨1, user 7, []⟩, ⟨2, user 8, []⟩])] := by
  intro v
  have hgranted : Granted 0 ((Memory.transaction .shared addAnother.act).andThen .done)
      oneUser oneUser v := .atOnce rfl Nat.zero_lt_one
  have howner : oneUser.memory.ownsLock 0 = false := rfl
  obtain ⟨hopen, -⟩ | ⟨c', s, kept, after, hleads, hkept, honward, hconcluded, hstore, -⟩ :=
    (raised_undone_iff howner).2 oneUser v v hgranted (.refl v)
  · cases hopen
  · cases hleads with
    | refl => cases hkept
    | early hv => cases hv
    | call _ hleads =>
      cases hleads
      cases hkept
      refine ⟨after, hconcluded, honward, ?_⟩
      rw [hstore]
      rfl

/-- A task that has added a user and is cancelled while it leaves the lock: its transaction comes to
the cancellation, and once the lock is free there are two users. -/
theorem interrupted_keeps :
    let v := oneUser.advance 0 ((Memory.transaction .shared addAnother.act).andThen .done)
    let w := (v.cancel 0).settle 3
    v.ready = [.release 0 .write 0] ∧
      w.tasks.map Progress.ending = [some (.error .cancelled)] ∧
      w.lock.admits .write = true ∧ w.memory.owner = none ∧
      oneUser.memory.store.tables = [("users", [⟨1, user 7, []⟩])] ∧
      w.memory.store.tables = [("users", [⟨1, user 7, []⟩, ⟨2, user 8, []⟩])] :=
  ⟨rfl, rfl, rfl, rfl, rfl, rfl⟩

end Client

end RecordStore
